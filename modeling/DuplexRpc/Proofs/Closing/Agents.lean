import DuplexRpc.Proofs.Closing.Drifts

/-! What tasks and loops come to in moves of the nodes. The loop that handles frames stands apart: it
ends by shutting its endpoint, and takes from the queue of the other side. -/

namespace DuplexRpc

open ByteStream

namespace Network

variable {net : Network} {side : Side} {held held' : Side → List (Nat × Id)}

/-! ### Endpoints -/

/-- A node that is known moves. -/
theorem drifts_at {n : Node} (here : net.node? side = some n) {f : Node → Node}
    (moves : (net.stance side (held side) n).Moves (net.stance side (held side) (f n))) :
    net.Drifts held (net.mapNode side f) held := by
  refine drifts_mapNode side f rfl fun m there => ?_
  obtain rfl : n = m := Option.some.inj (here.symm.trans there)
  exact moves

theorem stance_spawn (role : Role) (script : Script) (other : Side) (calls : List (Nat × Id))
    (n : Node) : (net.spawn side role script).stance other calls n =
      { net.stance other calls n with next := net.nextSerial + 1 } := by
  cases side <;> rfl

theorem node?_spawn (role : Role) (script : Script) (other : Side) :
    (net.spawn side role script).node? other = (net.mapNode side fun n =>
      { n with tasks := n.tasks ++ [⟨net.nextSerial, role, .going script⟩] }).node? other := by
  cases other <;> rfl

/-- A node with a task is held. -/
theorem holding_spawn (role : Role) (script : Script) :
    ∀ n, (net.spawn side role script).node? side = some n → n.isHeld = true := by
  intro n there
  rw [node?_spawn, node?_mapNode_self] at there
  obtain ⟨m, -, rfl⟩ := Option.map_eq_some_iff.mp there
  simp [Node.isHeld]

theorem drifts_spawn (holding : ∀ n, net.node? side = some n → n.isHeld = true) (role : Role)
    (script : Script) : net.Drifts held (net.spawn side role script) held := by
  have spawned (R : Side → Node → Node → Prop) (h : net.Nodewise (net.mapNode side fun n =>
      { n with tasks := n.tasks ++ [⟨net.nextSerial, role, .going script⟩] }) R) :
      net.Nodewise (net.spawn side role script) R := by
    intro other
    rw [node?_spawn]
    exact h other
  refine spawned _ (nodewise_mapNode side (fun n here => ?_) fun n here => ?_)
  · have was := holding n here
    have is : Node.isHeld { n with tasks := n.tasks ++ [⟨net.nextSerial, role, .going script⟩] } =
        n.isHeld := by
      rw [was]
      simp [Node.isHeld]
    have grown : net.stance side (held side)
        { n with tasks := n.tasks ++ [⟨net.nextSerial, role, .going script⟩] } =
          { net.stance side (held side) n with
            serials := n.tasks.map Task.serial ++ [net.nextSerial] } := by
      simp only [stance, is, List.filterMap_append, List.filterMap_cons, List.filterMap_nil,
        Task.key?, List.append_nil, List.map_append, List.map_cons, List.map_nil]
    rw [stance_spawn, grown]
    exact .single (.spawn was)
  · rw [stance_spawn]
    exact .single (.tick (Nat.le_succ _))

theorem drifts_spawnJobs (holding : ∀ n, net.node? side = some n → n.isHeld = true)
    (jobs : List Job) : net.Drifts held (net.spawnJobs side jobs) held := by
  induction jobs generalizing net with
  | nil => exact .refl net held
  | cons job jobs ih =>
    have first : net.Drifts held (net.spawn side (.handler job.origin) job.script) held :=
      drifts_spawn holding _ _
    exact first.trans (ih (holding_spawn _ _))

theorem drifts_atEndpoint (holding : ∀ n, net.node? side = some n → n.isHeld = true)
    {f : Endpoint → Endpoint × List Job}
    (moves : ∀ (v : Stance) (e : Endpoint), (v.at_ e).Moves (v.at_ (f e).1)) :
    net.Drifts held (net.atEndpoint side f) held := by
  unfold atEndpoint
  split
  · rename_i n here
    have first : net.Drifts held (net.mapNode side fun m => { m with endpoint := (f n.endpoint).1 })
        held :=
      drifts_at here (moves (net.stance side (held side) n) n.endpoint)
    refine first.trans (drifts_spawnJobs (fun m there => ?_) _)
    rw [node?_mapNode_self, here] at there
    obtain rfl := Option.some.inj there
    exact holding n here
  · exact .refl net held

/-! ### Tasks that go -/

/-- The endpoint is released where the last of those who held it goes. -/
theorem moves_releaseFrom {v : Stance} {calls : List (Nat × Id)} {n m : Node}
    (less : m.isHeld = true → n.isHeld = true)
    (moves : v.Moves { net.stance side calls m with isHeld := n.isHeld }) :
    v.Moves (net.stance side calls (n.releaseFrom m)) := by
  unfold Node.releaseFrom
  cases is : m.isHeld with
  | true =>
    have same : { net.stance side calls m with isHeld := n.isHeld } = net.stance side calls m := by
      rw [less is, ← is]
      rfl
    rw [same] at moves
    simpa using moves
  | false =>
    cases was : n.isHeld with
    | true =>
      rw [was] at moves
      have released : net.stance side calls (m.mapEndpoint Endpoint.release) =
          { net.stance side calls m with
            isHeld := false
            stopped := true
            transport := m.endpoint.transport.mapBox fun box => { box with senderGone := true } } := by
        rw [← is]
        rfl
      simp only [Bool.not_false, Bool.and_true, if_true, released]
      exact moves.tail .release
    | false =>
      rw [was, ← is] at moves
      exact moves

theorem moves_letGo (n : Node) (calls : List (Nat × Id)) :
    (net.stance side calls n).Moves (net.stance side calls n.letGo) := by
  refine moves_releaseFrom (fun is => ?_) .refl
  have busy : (!n.tasks.isEmpty) = true := is
  rw [Node.isHeld, busy, Bool.or_true]

/-- A task goes whose call is no longer counted. -/
theorem moves_removeTask (n : Node) (calls : List (Nat × Id)) (serial : Nat) :
    Stance.Moves { net.stance side calls n with
        calls := calls ++ (n.tasks.filter (·.serial != serial)).filterMap Task.key? }
      (net.stance side calls (n.removeTask serial)) := by
  refine moves_releaseFrom (fun is => ?_) (.single (.retire (List.filter_sublist.map Task.serial)))
  have rest : (n.held || !(n.tasks.filter (·.serial != serial)).isEmpty) = true := is
  rw [Node.isHeld]
  cases tasks : n.tasks with
  | nil =>
    rw [tasks] at rest
    exact rest
  | cons t tasks => exact Bool.or_true _

/-- A task that waits for no call goes, after its endpoint moved. -/
theorem drifts_removeTask {f : Endpoint → Endpoint} {n : Node} {t : Task}
    (here : net.node? side = some n) (mem : t ∈ n.tasks) (apart : (n.tasks.map Task.serial).Nodup)
    (idle : t.key? = none) (moves : ∀ v : Stance, (v.at_ n.endpoint).Moves (v.at_ (f n.endpoint))) :
    net.Drifts held (net.mapNode side fun m => (m.mapEndpoint f).removeTask t.serial) held := by
  refine drifts_at here ?_
  have perm := Task.keys_perm mem apart
  rw [idle, Option.toList_none, List.nil_append] at perm
  have first := moves (net.stance side (held side) n)
  exact first.trans (.head (.shuffle (perm.append_left _))
    (moves_removeTask (n.mapEndpoint f) (held side) t.serial))

theorem drifts_endTask {n : Node} {t : Task} (here : net.node? side = some n) (mem : t ∈ n.tasks)
    (apart : (n.tasks.map Task.serial).Nodup) (idle : t.key? = none) (ending : Ending) :
    net.Drifts held (net.endTask side t ending) held := by
  unfold endTask
  cases t.role with
  | handler origin =>
    simp only [mapNode_mapNode]
    exact drifts_removeTask here mem apart idle fun v => v.moves_finish n.endpoint origin ending
  | caller =>
    have ended : net.Drifts held { net with endings := net.endings ++ [(t.serial, ending.toOutcome)] }
        held := .of_later (fun side => by cases side <;> rfl) rfl (Nat.le_refl _)
    have there : { net with endings := net.endings ++ [(t.serial, ending.toOutcome)] }.node? side =
        some n := by
      rw [← here]
      cases side <;> rfl
    exact ended.trans (drifts_removeTask (f := id) there mem apart idle fun v => .refl)

theorem drifts_abort
    (numbered : ∀ n, net.node? side = some n → (n.tasks.map Task.serial).Nodup) (serial : Nat) :
    net.Drifts held (net.abort side serial) held := by
  refine drifts_mapNode side _ rfl fun n here => ?_
  have apart := numbered n here
  have kept (perm : (n.tasks.filterMap Task.key?).Perm
      ((n.tasks.filter (·.serial != serial)).filterMap Task.key?)) :
      (net.stance side (held side) n).Moves (net.stance side (held side) (n.removeTask serial)) :=
    .head (.shuffle (perm.append_left _)) (moves_removeTask n (held side) serial)
  cases found : n.tasks.find? (·.serial == serial) with
  | none =>
    have others : n.tasks.filter (·.serial != serial) = n.tasks := by
      refine List.filter_eq_self.mpr fun t ht => ?_
      simpa using List.find?_eq_none.mp found t ht
    simp only [found]
    exact kept (others.symm ▸ .refl _)
  | some t =>
    have same : t.serial = serial := by simpa using List.find?_some found
    have perm := same ▸ Task.keys_perm (List.mem_of_find?_eq_some found) apart
    obtain ⟨_, role, stand⟩ := t
    cases stand with
    | going script => simpa only [found] using kept perm
    | atGate ticket next => simpa only [found] using kept perm
    | awaiting call next =>
      simp only [found]
      cases call with
      | ready outcome => exact kept perm
      | computed outcome => exact kept perm
      | waiting id ticket =>
        have left := (net.stance side (held side) n).moves_leave n.endpoint
          ((perm.append_left _).trans List.perm_middle)
        exact left.trans (moves_removeTask (n.mapEndpoint (·.leave ticket id)) (held side) serial)

/-! ### Tasks that go on -/

theorem stance_setStand (calls : List (Nat × Id)) (n : Node) (serial : Nat) (stand : Stand) :
    net.stance side calls (n.setStand serial stand) =
      { net.stance side calls n with
        calls := calls ++ (n.setStand serial stand).tasks.filterMap Task.key? } := by
  have serials : (n.setStand serial stand).tasks.map Task.serial = n.tasks.map Task.serial := by
    simp only [Node.setStand, List.map_map]
    refine List.map_congr_left fun t _ => ?_
    simp only [Function.comp]
    split <;> rfl
  have held : (n.setStand serial stand).isHeld = n.isHeld := by
    simp [Node.setStand, Node.isHeld]
  simp only [stance, serials, held]
  rfl

/-- A task stands elsewhere, and its endpoint moves with the call that the task waited for or waits
for now. -/
theorem moves_setStand {n : Node} {t : Task} (mem : t ∈ n.tasks)
    (apart : (n.tasks.map Task.serial).Nodup) (calls : List (Nat × Id)) {e : Endpoint} {stand : Stand}
    (moves : ∀ (v : Stance) (rest calls : List (Nat × Id)),
      v.calls.Perm (t.key?.toList ++ rest) →
      calls.Perm (({ t with stand } : Task).key?.toList ++ rest) →
        (v.at_ n.endpoint).Moves ({ v with calls }.at_ e)) :
    (net.stance side calls n).Moves
      (net.stance side calls ({ n with endpoint := e }.setStand t.serial stand)) := by
  have shift (front : List (Nat × Id)) {keys rest : List (Nat × Id)} (perm : keys.Perm (front ++ rest)) :
      (calls ++ keys).Perm (front ++ (calls ++ rest)) := by
    refine (perm.append_left _).trans ?_
    rw [← List.append_assoc, ← List.append_assoc]
    exact List.perm_append_comm.append_right _
  rw [stance_setStand]
  exact moves (net.stance side calls n) _ _ (shift _ (Task.keys_perm mem apart))
    (shift _ (Task.keys_setStand mem apart stand))

/-- A task that waits for no call goes on to where it waits for none either. -/
theorem moves_goOn {n : Node} {t : Task} (mem : t ∈ n.tasks)
    (apart : (n.tasks.map Task.serial).Nodup) (calls : List (Nat × Id)) {e : Endpoint} {stand : Stand}
    (idle : t.key? = none) (idle' : ({ t with stand } : Task).key? = none)
    (moves : ∀ v : Stance, (v.at_ n.endpoint).Moves (v.at_ e)) :
    (net.stance side calls n).Moves
      (net.stance side calls ({ n with endpoint := e }.setStand t.serial stand)) := by
  refine moves_setStand mem apart calls fun v rest calls before after => ?_
  rw [idle] at before
  rw [idle'] at after
  exact (moves v).tail (.shuffle (before.trans after.symm))

theorem node?_openGate (ticket : Nat) (opening : Opening) :
    (net.openGate ticket opening).node? side = (net.node? side).map fun n =>
      { n with tasks := n.tasks.map (·.open_ ticket opening) } := by
  cases side <;> rfl

theorem drifts_openGate (ticket : Nat) (opening : Opening) :
    net.Drifts held (net.openGate ticket opening) held := by
  have same (net : Network) (side : Side) (calls : List (Nat × Id)) (n : Node) :
      net.stance side calls { n with tasks := n.tasks.map (·.open_ ticket opening) } =
        net.stance side calls n := by
    have serials : (n.tasks.map (·.open_ ticket opening)).map Task.serial = n.tasks.map Task.serial := by
      rw [List.map_map]
      exact List.map_congr_left fun t _ => t.serial_open ticket opening
    simp only [stance, Task.keys_open, serials, Node.isHeld, List.isEmpty_map]
  exact (drifts_mapNode_same .a (same net .a _)).trans (drifts_mapNode_same .b (same _ .b _))

/-- A task that goes on waits at a gate from now on. -/
theorem drifts_atGate {n : Node} {t : Task} (here : net.node? side = some n) (mem : t ∈ n.tasks)
    (apart : (n.tasks.map Task.serial).Nodup) (idle : t.key? = none) {ticket : Nat}
    (le : net.nextSerial ≤ ticket + 1) (gates : List (String × Nat)) (next : Opening → Script) :
    net.Drifts held
      { net.mapNode side (·.setStand t.serial (.atGate ticket next)) with
        gates
        nextSerial := ticket + 1 } held := by
  refine (drifts_at here (f := (·.setStand t.serial (.atGate ticket next)))
    (moves_goOn mem apart (held side) idle rfl fun v => .refl)).trans ?_
  refine .of_later (fun other => by cases other <;> rfl) rfl ?_
  cases side <;> exact le

theorem drifts_arriveAtGate {n : Node} {t : Task} (here : net.node? side = some n)
    (mem : t ∈ n.tasks) (apart : (n.tasks.map Task.serial).Nodup) {script : Script}
    (going : t.stand = .going script) (gate : String) (next : Opening → Script) :
    net.Drifts held (net.arriveAtGate side t.serial gate next) held := by
  have idle : t.key? = none := by rw [Task.key?, going]
  unfold arriveAtGate
  cases net.gates.lookup gate with
  | none => exact drifts_atGate here mem apart idle (Nat.le_succ _) _ next
  | some earlier =>
    have there : (net.openGate earlier .dropped).node? side =
        some { n with tasks := n.tasks.map (·.open_ earlier .dropped) } := by
      rw [node?_openGate, here]
      rfl
    have stays : t.open_ earlier .dropped = t := by rw [Task.open_, going]
    have serials : (n.tasks.map (·.open_ earlier .dropped)).map Task.serial =
        n.tasks.map Task.serial := by
      rw [List.map_map]
      exact List.map_congr_left fun t _ => t.serial_open earlier .dropped
    exact (drifts_openGate earlier .dropped).trans (drifts_atGate there
      (List.mem_map.mpr ⟨t, mem, stays⟩) (serials ▸ apart) idle (Nat.le_succ _) _ next)

theorem drifts_stepScript {n : Node} {t : Task} {script : Script}
    (here : net.node? side = some n) (mem : t ∈ n.tasks) (apart : (n.tasks.map Task.serial).Nodup)
    (going : t.stand = .going script) :
    net.Drifts held (net.stepScript side n t script) held := by
  have idle : t.key? = none := by rw [Task.key?, going]
  cases script with
  | done outcome => exact drifts_endTask here mem apart idle _
  | panic payload => exact drifts_endTask here mem apart idle _
  | log entry next =>
    refine (drifts_at here (f := (·.setStand t.serial (.going next)))
      (moves_goOn mem apart (held side) idle rfl fun v => .refl)).trans ?_
    exact .of_later (fun other => by cases other <;> cases side <;> rfl) (by cases side <;> rfl)
      (by cases side <;> exact Nat.le_refl _)
  | wait gate next => exact drifts_arriveAtGate here mem apart going gate next
  | request launch next =>
    refine drifts_at here (moves_setStand mem apart (held side) fun v rest calls before after => ?_)
    rw [idle] at before
    exact v.moves_launch n.endpoint net.clock launch (after.trans (before.symm.append_left _))
  | notify launch next =>
    exact drifts_at here (moves_goOn mem apart (held side) idle rfl fun v =>
      v.moves_announce n.endpoint launch)
  | look next => exact drifts_at here (moves_goOn mem apart (held side) idle rfl fun v => .refl)

theorem drifts_stepTask {n : Node} {t : Task} (here : net.node? side = some n) (mem : t ∈ n.tasks)
    (apart : (n.tasks.map Task.serial).Nodup) : net.Drifts held (net.stepTask side n t) held := by
  cases stand : t.stand with
  | going script =>
    rw [stepTask, stand]
    exact drifts_stepScript here mem apart stand
  | atGate ticket next =>
    rw [stepTask, stand]
    exact .refl net held
  | awaiting call next =>
    rcases polled : n.endpoint.poll call with ⟨_ | outcome, call', e⟩
    all_goals simp only [stepTask, stand, polled]
    · exact .refl net held
    · refine drifts_at here (moves_setStand mem apart (held side) fun v rest calls before after => ?_)
      have after : calls.Perm rest := after
      rw [Task.key?, stand] at before
      cases call with
      | ready outcome =>
        obtain rfl : n.endpoint = e := by cases outcome <;> cases polled <;> rfl
        exact .single (.shuffle (before.trans after.symm))
      | computed outcome =>
        obtain rfl : n.endpoint = e := by cases polled; rfl
        exact .single (.shuffle (before.trans after.symm))
      | waiting id ticket =>
        have moves := v.moves_poll n.endpoint (before.trans (after.symm.cons _))
          (congrArg Prod.fst polled)
        rwa [polled] at moves

end Network

end DuplexRpc

import DuplexRpc.Proofs.Closing.Overlap

/-! What a part of a call, of a stop or of the end of a loop comes to: every node turns, or a request
that passed the test is entered, whatever became of the endpoint since, or the loop that handles frames
is gone before anything was closed. -/

namespace DuplexRpc

namespace Stance

/-- What can happen to a node while calls overlap. A request is entered late where `late` holds. -/
inductive Shift (late : Prop) (v : Stance) : Stance → Prop
  | turn {other own : Prop} {v' : Stance} (turn : v.Turn other own v') : Shift late v v'
  | enter {r : Request} (resultType : String) (deadline : Option Nat) {calls : List (Nat × Id)}
      (admitted : late) (free : v.pool.find? r.id = none)
      (perm : calls.Perm ((v.pool.nextTicket, r.id) :: v.calls)) :
      Shift late v { v with pool := v.pool.enter r resultType deadline, calls }
  | quit : Shift late v { v with receiving := false }

variable {v v' : Stance} {late : Prop}

theorem Shift.of_moves (moves : v.Moves v') : v.Shift late v' :=
  .turn (Turn.of_moves moves : v.Turn False False v')

theorem Shift.mono {late' : Prop} (shift : v.Shift late v') (imp : late → late') :
    v.Shift late' v' := by
  cases shift with
  | turn turn => exact .turn turn
  | enter resultType deadline admitted free perm =>
    exact .enter resultType deadline (imp admitted) free perm
  | quit => exact .quit

theorem Shift.refl (v : Stance) : v.Shift late v :=
  .of_moves .refl

theorem Regular.shift (h : v.Regular) (shift : v.Shift late v') : v'.Regular ∧ v.Ages v' := by
  cases shift with
  | turn turn => exact ⟨(h.turn turn).1, (h.turn turn).2.toAges⟩
  | @enter r resultType deadline calls _ free perm =>
    obtain ⟨sound, apart, held⟩ := h.calls_enter resultType deadline free perm
    constructor
    · refine ⟨sound, apart, fun c hc => ?_, h.serials, h.below, h.released, h.wired, h.drained,
        h.unplugged, h.queued⟩
      rcases held c hc with ⟨old, keeps⟩ | ⟨-, has⟩
      · exact keeps.slot (h.slot c old)
      · exact has
    · refine ⟨Nat.le_succ _, fun p hp => ?_, fun c hc old => ?_, id⟩
      · rcases List.mem_append.mp hp with there | new
        · exact .inl there
        · exact .inr (Nat.le_of_eq (congrArg PendingRequest.ticket (List.mem_singleton.mp new)).symm)
      · rcases held c hc with kept | ⟨new, -⟩
        · exact kept
        · omega
  | quit =>
    exact ⟨⟨h.pool, h.apart, h.slot, h.serials, h.below, h.released, h.wired, h.drained, h.unplugged,
      h.queued⟩, ⟨Nat.le_refl _, fun _ => .inl, fun _ hc _ => ⟨hc, id, fun _ => id⟩, id⟩⟩

/-- At a stopped endpoint nothing is entered but what comes late. -/
theorem Regular.closed_shift (h : v.Regular) (shift : v.Shift late v') (prompt : ¬ late)
    (stopped : v.stopped = true) :
    v'.pool.nextTicket = v.pool.nextTicket ∧ ∀ p ∈ v'.pool.entries, p ∈ v.pool.entries := by
  cases shift with
  | turn turn =>
    obtain ⟨h', later⟩ := h.turn turn
    have same := later.closed stopped
    refine ⟨same, fun p hp => ?_⟩
    rcases later.entries p hp with old | new
    · exact old
    · have below := h'.pool.below p hp
      omega
  | enter _ _ admitted => exact absurd admitted prompt
  | quit => exact ⟨rfl, fun _ => id⟩

/-! ### The parts of a call -/

variable (v : Stance) (e : Endpoint)

theorem shift_advance (now : Nat) {stage : Stage} (going : stage.isMade = false)
    {rest calls : List (Nat × Id)} (before : v.calls.Perm (stage.key?.toList ++ rest))
    (after : calls.Perm ((e.advance now stage).1.key?.toList ++ rest)) :
    (v.at_ e).Shift (∃ d id, stage = .numbered d id)
      ({ v with calls }.at_ (e.advance now stage).2) := by
  have idle (e' : Endpoint) (same : v.at_ e' = v.at_ e) (before : v.calls.Perm rest)
      (after : calls.Perm rest) :
      (v.at_ e).Shift (∃ d id, stage = .numbered d id) ({ v with calls }.at_ e') := by
    have shuffled : { v with calls }.at_ e' = { v.at_ e with calls } := by
      rw [← same]
      rfl
    rw [shuffled]
    exact .of_moves (.single (.shuffle (before.trans after.symm)))
  cases stage with
  | called what =>
    cases what with
    | plain method params timeout resultType => exact idle e rfl before after
    | mapped client service method args =>
      have resolved : v.at_ (e.resolve service method).2 = v.at_ e := rfl
      rw [Endpoint.advance] at after ⊢
      rcases same : e.resolve service method with ⟨err | m, e'⟩
      all_goals rw [same] at resolved after
      · exact idle e' resolved before after
      · simp only at after ⊢
        split at after
        · rename_i kind
          rw [if_pos kind]
          exact idle e' resolved before after
        · rename_i kind
          rw [if_neg kind]
          cases packed : Endpoint.pack m args with
          | error err =>
            rw [packed] at after
            exact idle e' resolved before after
          | ok params =>
            rw [packed] at after
            exact idle e' resolved before after
  | prepared d =>
    rw [Endpoint.advance] at after ⊢
    split at after
    · rename_i stopped
      rw [if_pos stopped]
      exact idle e rfl before after
    · rename_i live
      rw [if_neg live]
      exact idle e rfl before after
  | tested d => exact idle _ rfl before after
  | numbered d id =>
    rw [Endpoint.advance, PendingPool.add] at after ⊢
    cases free : e.pool.find? id with
    | some p =>
      rw [free] at after
      exact idle e rfl before after
    | none =>
      rw [free] at after
      exact .enter d.resultType (Endpoint.deadline now d.timeout) ⟨d, id, rfl⟩ free
        (after.trans (before.symm.cons _))
  | entered d id ticket =>
    rw [Endpoint.advance, Endpoint.postRequest] at after ⊢
    cases posted : e.transport.post (.request ⟨id, d.method, d.params⟩) with
    | ok transport =>
      rw [posted] at after
      exact .of_moves (.tail (.single (.post posted)) (.shuffle (before.trans after.symm)))
    | error err =>
      rw [posted] at after
      exact .of_moves (v.moves_leave e (before.trans (after.symm.cons _)))
  | made call ticket => cases going

end Stance

theorem Stage.isMade_iff {stage : Stage} :
    stage.isMade = true ↔ ∃ call ticket, stage = .made call ticket := by
  cases stage <;> simp [isMade]

namespace Overlap

variable {w : Overlap} {side : Side} {n : Node} {k : Nat}

/-- The calls that wait while they are being made. -/
def keys (w : Overlap) (side : Side) : List (Nat × Id) :=
  (w.making side).filterMap Making.key?

/-- What counts of a node, for whose endpoint calls are held and made. -/
def stance (w : Overlap) (side : Side) (n : Node) : Stance :=
  w.scene.net.stance side (w.scene.held side ++ w.keys side) n

/-- What holds of every node, however far calls and the ends of loops got. -/
def Regular (w : Overlap) : Prop :=
  w.scene.Regular w.keys

/-- A request that passed the test is to be entered. -/
def IsLate (w : Overlap) (part : Part) (side : Side) : Prop :=
  ∃ k m d id, part = .advance side k ∧ (w.making side)[k]? = some m ∧ m.stage = .numbered d id

/-- Every node shifts in a part. -/
def Shifts (w : Overlap) (part : Part) (w' : Overlap) : Prop :=
  w.scene.net.Nodewise w'.scene.net fun side n n' =>
    (w.stance side n).Shift (w.IsLate part side) (w'.stance side n')

/-! ### Calls that get further -/

/-- The calls that are being made, but for the one at a place. -/
theorem keys_perm {m : Making} (there : (w.making side)[k]? = some m) :
    (w.keys side).Perm
      (m.key?.toList ++ ((w.making side).eraseIdx k).filterMap Making.key?) := by
  obtain ⟨inside, rfl⟩ := List.getElem?_eq_some_iff.mp there
  have split := ((List.getElem_cons_eraseIdx_perm inside).filterMap Making.key?).symm
  rw [List.filterMap_cons] at split
  cases here : ((w.making side)[k]).key? <;> rw [here] at split <;> exact split

theorem keys_reach {m : Making} (there : (w.making side)[k]? = some m) (task : Option Nat)
    (x : Stage × Endpoint) : ((w.reach side k task x).keys side).Perm
      (((⟨task, x.1⟩ : Making).key?).toList ++ ((w.making side).eraseIdx k).filterMap Making.key?) := by
  have split := keys_perm (w.making_reach there task x)
  have others : ((w.reach side k task x).making side).eraseIdx k = (w.making side).eraseIdx k := by
    simp only [reach, putMaking, if_true, List.eraseIdx_set_eq]
  rwa [others] at split

theorem keys_reach_other (task : Option Nat) (x : Stage × Endpoint) :
    (w.reach side k task x).keys side.other = w.keys side.other := by
  simp only [keys, reach, putMaking, if_neg side.other_ne]

theorem perm_front (held tasks : List (Nat × Id)) {keys front rest : List (Nat × Id)}
    (split : keys.Perm (front ++ rest)) :
    (held ++ keys ++ tasks).Perm (front ++ (held ++ rest ++ tasks)) := by
  have first := ((split.append_left held).append_right tasks)
  refine first.trans ?_
  simp only [List.append_assoc]
  exact List.perm_append_comm_assoc _ _ _

/-- A call gets further at the node of a side, and what counts of the other one stays. -/
theorem shifts_of_advance {m : Making} (here : w.scene.net.node? side = some n)
    (there : (w.making side)[k]? = some m) (going : m.stage.isMade = false) {w' : Overlap}
    {f : Node → Node} (net : w'.scene.net = w.scene.net.mapNode side f)
    (other : w'.scene.held side.other ++ w'.keys side.other =
      w.scene.held side.other ++ w.keys side.other) {calls : List (Nat × Id)}
    (stance : w'.stance side (f n) = { w.stance side n with calls }.at_
      (n.endpoint.advance w.scene.net.clock m.stage).2)
    (after : calls.Perm ((n.endpoint.advance w.scene.net.clock m.stage).1.key?.toList ++
      (w.scene.held side ++ ((w.making side).eraseIdx k).filterMap Making.key? ++
        n.tasks.filterMap Task.key?))) : w.Shifts (.advance side k) w' := by
  have split := keys_perm there
  rw [show m.key? = m.stage.key? by simp [Making.key?, going]] at split
  have before : (w.stance side n).calls.Perm _ :=
    perm_front (w.scene.held side) (n.tasks.filterMap Task.key?) split
  rw [Shifts, net]
  refine Network.nodewise_mapNode side (fun n' here' => ?_) fun n' _ => ?_
  · obtain rfl := Option.some.inj (here.symm.trans here')
    rw [stance]
    refine ((w.stance side n).shift_advance n.endpoint w.scene.net.clock going before after).mono ?_
    rintro ⟨d, id, numbered⟩
    exact ⟨k, m, d, id, rfl, there, numbered⟩
  · have same : w'.stance side.other n' = w.stance side.other n' := by
      rw [Overlap.stance, other, net, Network.stance_mapNode]
      rfl
    rw [same]
    exact .refl _

theorem shifts_advance (h : w.Regular) {m : Making} (here : w.scene.net.node? side = some n)
    (there : (w.making side)[k]? = some m) (going : m.stage.isMade = false) :
    w.Shifts (.advance side k)
      (w.reach side k m.task (n.endpoint.advance w.scene.net.clock m.stage)) := by
  let x := n.endpoint.advance w.scene.net.clock m.stage
  have keys := keys_reach there m.task x
  have other : (w.reach side k m.task x).keys side.other = w.keys side.other :=
    keys_reach_other m.task x
  cases made : x.1.isMade with
  | false =>
    have scene : (w.reach side k m.task x).scene = w.scene.setEndpoint side x.2 :=
      Scene.giveMade_of_going made
    have key : Making.key? ⟨m.task, x.1⟩ = x.1.key? := by simp [Making.key?, made]
    rw [key] at keys
    refine shifts_of_advance (f := fun n => { n with endpoint := x.2 }) here there going ?_ ?_ ?_
      (perm_front _ _ keys)
    · rw [scene]
      rfl
    · rw [scene, other]
      rfl
    · rw [stance, scene, Scene.setEndpoint, Network.stance_mapNode]
      rfl
  | true =>
    obtain ⟨call, ticket, is⟩ : ∃ call ticket, x.1 = .made call ticket := Stage.isMade_iff.mp made
    have scene : (w.reach side k m.task x).scene =
        (w.scene.setEndpoint side x.2).give side m.task call := by
      rw [reach, is]
      rfl
    have key : Making.key? ⟨m.task, x.1⟩ = none := by simp [Making.key?, made]
    rw [key] at keys
    have waits : x.1.key? = call.key? := by rw [is]; rfl
    rcases (w.scene.setEndpoint side x.2).give_cases side m.task call with
      given | ⟨serial, what, next, asks, given⟩
    all_goals rw [given] at scene
    · have net : (w.reach side k m.task x).scene.net =
          w.scene.net.mapNode side fun n => { n with endpoint := x.2 } := by
        rw [scene]
        rfl
      have held : (w.reach side k m.task x).scene.held side =
          call.key?.toList ++ w.scene.held side := by
        rw [scene]
        exact if_pos rfl
      have after := (perm_front (w.scene.held side) (n.tasks.filterMap Task.key?) keys).append_left
        call.key?.toList
      rw [← waits] at after
      refine shifts_of_advance here there going net ?_ ?_ after
      · rw [scene, other, Scene.held_hold_other]
        rfl
      · rw [stance, held, net, Network.stance_mapNode, waits]
        simp only [Network.stance, List.append_assoc]
        rfl
    · obtain ⟨n', t, here', mem, rfl, stand⟩ := Scene.asks?_eq_some asks
      rw [Scene.setEndpoint, Network.node?_mapNode_self, here] at here'
      obtain rfl := Option.some.inj here'
      have net : (w.reach side k m.task x).scene.net = w.scene.net.mapNode side
          fun n => { n with endpoint := x.2 }.setStand t.serial (.awaiting call next) := by
        rw [scene, Scene.setEndpoint, Network.mapNode_mapNode]
        rfl
      have held : (w.reach side k m.task x).scene.held = w.scene.held := by
        rw [scene]
        rfl
      have others := Task.keys_perm mem (h side n here).serials
      have moved := Task.keys_setStand mem (h side n here).serials (.awaiting call next)
      rw [show t.key? = none by rw [Task.key?, stand], Option.toList_none, List.nil_append] at others
      have after : (w.scene.held side ++ (w.reach side k m.task x).keys side ++
          (n.setStand t.serial (.awaiting call next)).tasks.filterMap Task.key?).Perm
            (x.1.key?.toList ++ (w.scene.held side ++
              ((w.making side).eraseIdx k).filterMap Making.key? ++ n.tasks.filterMap Task.key?)) := by
        rw [waits]
        have added := (moved.trans (others.symm.append_left _)).append_left
          (w.scene.held side ++ (w.reach side k m.task x).keys side)
        exact added.trans ((List.perm_append_comm_assoc _ _ _).trans ((perm_front _ _ keys).append_left _))
      refine shifts_of_advance here there going net ?_ ?_ after
      · rw [held, other]
      · rw [stance, held, net, Network.stance_mapNode, Network.stance_setStand]
        rfl

/-! ### Parts -/

/-- Nothing changes that counts of a node. -/
theorem shifts_of_same {w' : Overlap} {part : Part} (net : w'.scene.net = w.scene.net)
    (held : w'.scene.held = w.scene.held) (keys : ∀ side, w'.keys side = w.keys side) :
    w.Shifts part w' := by
  refine .of_same (fun side => by rw [net]) fun side n _ => ?_
  have same : w'.stance side n = w.stance side n := by rw [stance, net, held, keys, stance]
  rw [same]
  exact .refl _

theorem keys_putMaking (task : Option Nat) (what : Launch) (other : Side) :
    (w.putMaking side (w.making side ++ [⟨task, .called what⟩])).keys other = w.keys other := by
  by_cases here : other = side
  · subst here
    simp only [keys, putMaking, if_true, List.filterMap_append]
    exact List.append_nil _
  · simp only [keys, putMaking, if_neg here]

/-- One node shifts. -/
theorem shifts_mapNode {w' : Overlap} {part : Part} {f : Node → Node}
    (net : w'.scene.net = w.scene.net.mapNode side f) (held : w'.scene.held = w.scene.held)
    (keys : ∀ side, w'.keys side = w.keys side)
    (self : ∀ n, w.scene.net.node? side = some n →
      (w.stance side n).Shift (w.IsLate part side) (w.stance side (f n))) : w.Shifts part w' := by
  have same (side : Side) (n : Node) : w'.stance side n = w.stance side n := by
    rw [stance, net, held, keys, Network.stance_mapNode, stance]
  rw [Shifts, net]
  simp only [same]
  exact Network.nodewise_mapNode side self fun n _ => .refl _

theorem shifts_discharge (k : Nat) (duty : Duty) (rest : List Duty) :
    w.Shifts (.close side k) (w.discharge side k rest (duty.perform w.scene.net side)) := by
  have keys (x : List Duty × Network) (side' : Side) :
      (w.discharge side k rest x).keys side' = w.keys side' := rfl
  cases duty with
  | token => exact shifts_mapNode rfl rfl (keys _) fun n _ => .of_moves (.single .stop)
  | list => exact shifts_of_same rfl rfl (keys _)
  | fail ids =>
    cases ids with
    | nil => exact shifts_of_same rfl rfl (keys _)
    | cons id ids =>
      refine shifts_mapNode (f := fun n => n.mapEndpoint fun e =>
        { e with pool := (e.pool.finish id (.error .interrupted)).2 }) rfl rfl (keys _)
        fun n _ => .of_moves ?_
      have finished : w.stance side (n.mapEndpoint fun e =>
          { e with pool := (e.pool.finish id (.error .interrupted)).2 }) =
            { w.stance side n with
              pool := (n.endpoint.pool.finish id (.error .interrupted)).2 } := rfl
      rw [finished]
      cases found : n.endpoint.pool.find? id with
      | none =>
        rw [PendingPool.finish_of_find?_none found]
        exact .refl
      | some p =>
        rw [PendingPool.finish_of_find? found]
        exact .single (.close (PendingPool.find?_eq_some found).1 nofun)
  | inbox =>
    refine Network.Nodewise.mono (w.scene.net.drains_mapInbox side (f := Mailbox.close) fun _ => rfl) ?_
    rintro other n n' - ⟨f, keeps, -, drained⟩
    have after : (w.discharge side k rest (Duty.inbox.perform w.scene.net side)).stance other n' =
        (w.stance other n).drain f := drained _
    rw [after]
    exact .turn (.moves keeps (.inl trivial) .refl : Stance.Turn True False _ _)
  | exit => exact shifts_mapNode rfl rfl (keys _) fun n _ => .refl _

theorem shifts_step (h : w.Regular) (part : Part) : w.Shifts part (w.step part) := by
  cases part with
  | whole ev =>
    simp only [step]
    split
    · exact shifts_of_same rfl rfl fun _ => rfl
    · exact Network.Nodewise.mono (Scene.Regular.turns_step h ev) fun _ _ _ _ => .turn
  | call side what =>
    simp only [step]
    split
    · exact shifts_of_same rfl rfl (keys_putMaking none what)
    · exact shifts_of_same rfl rfl fun _ => rfl
  | callFrom side serial =>
    simp only [step]
    split
    · split
      · exact shifts_of_same rfl rfl fun _ => rfl
      · exact shifts_of_same rfl rfl (keys_putMaking (some serial) _)
    · exact shifts_of_same rfl rfl fun _ => rfl
  | advance side k =>
    simp only [step]
    split
    · rename_i n m here there
      split
      · exact shifts_of_same rfl rfl fun _ => rfl
      · rename_i going
        exact shifts_advance h here there (Bool.eq_false_iff.mpr going)
    · exact shifts_of_same rfl rfl fun _ => rfl
  | stop side =>
    simp only [step]
    split <;> exact shifts_of_same rfl rfl fun _ => rfl
  | leave side duties =>
    simp only [step]
    split
    · split
      · exact shifts_mapNode (f := fun n => { n with receiving := false }) rfl rfl (fun _ => rfl)
          fun _ _ => .quit
      · exact shifts_of_same rfl rfl fun _ => rfl
    · exact shifts_of_same rfl rfl fun _ => rfl
  | close side k =>
    simp only [step]
    split
    · exact shifts_discharge k _ _
    · exact shifts_of_same rfl rfl fun _ => rfl

/-! ### Runs -/

/-- Every node and what became of it. -/
def Ages (w w' : Overlap) : Prop :=
  w.scene.net.Nodewise w'.scene.net fun side n n' => (w.stance side n).Ages (w'.stance side n')

theorem Ages.refl (w : Overlap) : w.Ages w :=
  .of_same (fun _ => rfl) fun side n _ => .refl (w.stance side n)

theorem Ages.trans {w' w'' : Overlap} (h : w.Ages w') (h' : w'.Ages w'') : w.Ages w'' :=
  Network.Nodewise.trans h h' fun _ _ _ _ => Stance.Ages.trans

theorem Regular.step (h : w.Regular) (part : Part) : (w.step part).Regular ∧ w.Ages (w.step part) := by
  have shifts := shifts_step h part
  refine ⟨fun side n' there => ?_, Network.Nodewise.mono shifts fun side n n' here shift => ?_⟩
  · obtain ⟨n, here, shift⟩ := Network.Nodewise.origin shifts there
    exact (Stance.Regular.shift (h side n here) shift).1
  · exact (Stance.Regular.shift (h side n here) shift).2

theorem Regular.run (h : w.Regular) (parts : List Part) : (w.run parts).Regular ∧ w.Ages (w.run parts) := by
  induction parts generalizing w with
  | nil => exact ⟨h, .refl w⟩
  | cons part parts ih =>
    obtain ⟨h', ages⟩ := h.step part
    obtain ⟨h'', ages'⟩ := ih h'
    exact ⟨h'', ages.trans ages'⟩

theorem regular_start {net : Network} (starts : Scene.Starts net) : Regular { scene := { net } } :=
  (Scene.holds_start starts).regular

end Overlap

end DuplexRpc

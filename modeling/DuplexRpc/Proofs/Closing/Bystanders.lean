import DuplexRpc.Proofs.Closing.Incidents

/-! What happens at one side leaves the other side alone: frames may be taken from the queue that it
posts to, and its tasks may pass gates. The loops of a stream and the sentinel do not concern the
requests that wait at their own side either. -/

namespace DuplexRpc

open ByteStream

/-- Something happened elsewhere. -/
structure Node.Bystands (n n' : Node) : Prop where
  endpoint : ∃ t, n'.endpoint = n.endpoint.via t
  held : n'.held = n.held
  serials : n'.tasks.map Task.serial = n.tasks.map Task.serial
  keys : n'.tasks.filterMap Task.key? = n.tasks.filterMap Task.key?
  receiving : n'.receiving = n.receiving

/-- A loop went on that handles no frames: no request is concerned, and nobody who holds the endpoint. -/
structure Node.Rests (n n' : Node) : Prop where
  pool : n'.endpoint.pool = n.endpoint.pool
  held : n'.held = n.held
  tasks : n'.tasks = n.tasks
  receiving : n'.receiving = n.receiving

namespace Node.Bystands

variable {n n' n'' : Node}

theorem refl (n : Node) : n.Bystands n :=
  ⟨⟨n.endpoint.transport, rfl⟩, rfl, rfl, rfl, rfl⟩

theorem trans (h : n.Bystands n') (h' : n'.Bystands n'') : n.Bystands n'' := by
  obtain ⟨t, same⟩ := h.endpoint
  obtain ⟨t', same'⟩ := h'.endpoint
  exact ⟨⟨t', by rw [same', same]; rfl⟩, h'.held.trans h.held, h'.serials.trans h.serials,
    h'.keys.trans h.keys, h'.receiving.trans h.receiving⟩

theorem pool (h : n.Bystands n') : n'.endpoint.pool = n.endpoint.pool := by
  obtain ⟨t, same⟩ := h.endpoint
  rw [same]
  rfl

theorem isStopped (h : n.Bystands n') : n'.isStopped = n.isStopped := by
  obtain ⟨t, same⟩ := h.endpoint
  show n'.endpoint.isStopped = n.endpoint.isStopped
  rw [same]
  rfl

theorem isHeld (h : n.Bystands n') : n'.isHeld = n.isHeld := by
  have lengths : (n'.tasks.map Task.serial).isEmpty = (n.tasks.map Task.serial).isEmpty := by
    rw [h.serials]
  rw [List.isEmpty_map, List.isEmpty_map] at lengths
  rw [Node.isHeld, Node.isHeld, h.held, lengths]

end Node.Bystands

/-- The side at which an agent goes on. -/
def Agent.side : Agent → Side
  | .sentinel side | .receiving side _ | .writing side _ | .reading side _ | .task side _
  | .timer side _ => side

/-- The side at which an incident happens, if it is one. -/
def Incident.side? : Incident → Option Side
  | .go agent => some agent.side
  | .launch side _ | .run side _ | .ask side _ | .poll side _ | .drop side _ | .abort side _
  | .cancel side _ => some side
  | .openGate _ _ | .pass _ | .far _ => none

namespace Network

variable {net net' net'' : Network} {side : Side} {n : Node}

/-- What is done at a side spares the other one. -/
def Spares (net : Network) (side : Side) (net' : Network) : Prop :=
  net.Nodewise net' fun other n n' => other ≠ side → n.Bystands n'

theorem Spares.trans (h : net.Spares side net') (h' : net'.Spares side net'') :
    net.Spares side net'' :=
  Nodewise.trans h h' fun _ _ _ _ first second apart => (first apart).trans (second apart)

theorem spares_of_same (nodes : ∀ other, net'.node? other = net.node? other) :
    net.Spares side net' :=
  .of_same nodes fun _ n _ _ => .refl n

theorem Spares.refl (net : Network) (side : Side) : net.Spares side net :=
  spares_of_same fun _ => rfl

theorem spares_mapNode (side : Side) (f : Node → Node) : net.Spares side (net.mapNode side f) :=
  nodewise_mapNode side (fun _ _ apart => absurd rfl apart) fun n _ _ => .refl n

/-- Every node changes in a way that bystanders may see. -/
theorem spares_mapNode_bystander (other : Side) {f : Node → Node} (same : ∀ n : Node, n.Bystands (f n)) :
    net.Spares side (net.mapNode other f) :=
  nodewise_mapNode other (fun n _ _ => same n) fun n _ _ => .refl n

theorem bystands_open (n : Node) (ticket : Nat) (opening : Opening) :
    n.Bystands { n with tasks := n.tasks.map (·.open_ ticket opening) } where
  endpoint := ⟨n.endpoint.transport, rfl⟩
  held := rfl
  serials := by
    rw [List.map_map]
    exact List.map_congr_left fun t _ => t.serial_open ticket opening
  keys := Task.keys_open n.tasks ticket opening
  receiving := rfl

theorem spares_openGate (ticket : Nat) (opening : Opening) :
    net.Spares side (net.openGate ticket opening) :=
  (spares_mapNode_bystander .a fun n => bystands_open n ticket opening).trans
    (spares_mapNode_bystander .b fun n => bystands_open n ticket opening)

theorem spares_mapInbox (side : Side) (f : Mailbox → Mailbox) :
    net.Spares side (net.mapInbox side f) := by
  unfold mapInbox
  split
  · exact spares_mapNode_bystander side.other fun n => ⟨⟨_, rfl⟩, rfl, rfl, rfl, rfl⟩
  · exact spares_mapNode side _

/-! ### Tasks -/

theorem spares_spawn (role : Role) (script : Script) :
    net.Spares side (net.spawn side role script) :=
  (spares_mapNode side _).trans (spares_of_same (node?_spawn role script))

theorem spares_spawnJobs (jobs : List Job) : net.Spares side (net.spawnJobs side jobs) := by
  induction jobs generalizing net with
  | nil => exact .refl net side
  | cons job jobs ih =>
    have first : net.Spares side (net.spawn side (.handler job.origin) job.script) :=
      spares_spawn _ _
    exact first.trans ih

theorem spares_atEndpoint (f : Endpoint → Endpoint × List Job) :
    net.Spares side (net.atEndpoint side f) := by
  unfold atEndpoint
  split
  · exact (spares_mapNode side _).trans (spares_spawnJobs _)
  · exact .refl net side

theorem spares_endTask (t : Task) (ending : Ending) :
    net.Spares side (net.endTask side t ending) := by
  unfold endTask
  split
  · exact (spares_mapNode side _).trans (spares_mapNode side _)
  · exact (spares_of_same fun other => by cases other <;> rfl).trans (spares_mapNode side _)

theorem spares_arriveAtGate (serial : Nat) (gate : String) (next : Opening → Script) :
    net.Spares side (net.arriveAtGate side serial gate next) := by
  have placed (net : Network) : net.Spares side
      { net.mapNode side (·.setStand serial (.atGate net.nextSerial next)) with
        gates := (gate, net.nextSerial) :: net.gates.filter (·.1 != gate)
        nextSerial := net.nextSerial + 1 } :=
    (spares_mapNode side _).trans (spares_of_same fun other => by cases other <;> rfl)
  unfold arriveAtGate
  split
  · exact (spares_openGate _ _).trans (placed _)
  · exact placed net

theorem spares_stepTask (t : Task) : net.Spares side (net.stepTask side n t) := by
  unfold stepTask
  split
  · rename_i script _
    cases script with
    | done outcome => exact spares_endTask t _
    | panic payload => exact spares_endTask t _
    | log entry next =>
      exact (spares_mapNode side _).trans (spares_of_same fun other => by cases other <;> rfl)
    | wait gate next => exact spares_arriveAtGate t.serial gate next
    | request launch next | notify launch next | look next => exact spares_mapNode side _
  · exact .refl net side
  · split
    · exact spares_mapNode side _
    · exact .refl net side

/-! ### Loops -/

theorem spares_endReceiving (side : Side) : net.Spares side (net.endReceiving side) :=
  (spares_mapNode side _).trans (spares_mapInbox side _)

theorem spares_stepReceiving (heeds : Bool) : net.Spares side (net.stepReceiving side n heeds) := by
  unfold stepReceiving
  split
  · exact spares_endReceiving side
  · simp only
    split
    · split
      · exact (spares_mapInbox side _).trans (spares_atEndpoint _)
      · exact (spares_mapInbox side _).trans ((spares_mapNode side _).trans (spares_endReceiving side))
    · split
      · exact (spares_mapNode side _).trans (spares_endReceiving side)
      · exact .refl net side

/-! ### Loops of a stream -/

/-- A loop of a side goes on that handles no frames. -/
def Carries (net : Network) (side : Side) (net' : Network) : Prop :=
  net.Nodewise net' fun other n n' => (other = side → n.Rests n') ∧ (other ≠ side → n.Bystands n')

theorem Carries.spares (h : net.Carries side net') : net.Spares side net' :=
  Nodewise.mono h fun _ _ _ _ => And.right

theorem Carries.trans (h : net.Carries side net') (h' : net'.Carries side net'') :
    net.Carries side net'' :=
  Nodewise.trans h h' fun _ _ _ _ first second =>
    ⟨fun here => ⟨((second.1 here).pool).trans (first.1 here).pool,
      ((second.1 here).held).trans (first.1 here).held,
      ((second.1 here).tasks).trans (first.1 here).tasks,
      ((second.1 here).receiving).trans (first.1 here).receiving⟩,
    fun apart => (first.2 apart).trans (second.2 apart)⟩

theorem carries_of_same (nodes : ∀ other, net'.node? other = net.node? other) :
    net.Carries side net' :=
  .of_same nodes fun _ n _ => ⟨fun _ => ⟨rfl, rfl, rfl, rfl⟩, fun _ => .refl n⟩

theorem Carries.refl (net : Network) (side : Side) : net.Carries side net :=
  carries_of_same fun _ => rfl

theorem carries_mapNode (side : Side) {f : Node → Node} (same : ∀ n : Node, n.Rests (f n)) :
    net.Carries side (net.mapNode side f) :=
  nodewise_mapNode side (fun n _ => ⟨fun _ => same n, fun apart => absurd rfl apart⟩)
    fun n _ => ⟨fun here => absurd here side.other_ne, fun _ => .refl n⟩

theorem carries_mapPipeFrom (other : Side) (f : Pipe → Pipe) :
    net.Carries side (net.mapPipeFrom other f) :=
  carries_of_same (node?_mapPipeFrom f)

theorem carries_mapInbox (side : Side) (f : Mailbox → Mailbox) :
    net.Carries side (net.mapInbox side f) := by
  unfold mapInbox
  split
  · refine nodewise_mapNode side.other (fun n _ => ?_) fun n _ => ?_
    · exact ⟨fun here => absurd here side.other_ne, fun _ => ⟨⟨_, rfl⟩, rfl, rfl, rfl, rfl⟩⟩
    · exact ⟨fun _ => ⟨rfl, rfl, rfl, rfl⟩, fun _ => .refl n⟩
  · exact carries_mapNode side fun _ => ⟨rfl, rfl, rfl, rfl⟩

theorem carries_note (side : Side) (x : Note) : net.Carries side (net.mapNode side (·.note x)) :=
  carries_mapNode side fun _ => ⟨rfl, rfl, rfl, rfl⟩

theorem carries_endSentinel (side : Side) :
    net.Carries side (net.mapNode side Node.endSentinel) :=
  carries_mapNode side fun _ => ⟨rfl, rfl, rfl, rfl⟩

theorem carries_endWriting (side : Side) : net.Carries side (net.endWriting side) := by
  have ended : net.Carries side (net.mapNode side Node.endWriting) :=
    carries_mapNode side fun _ => ⟨rfl, rfl, rfl, rfl⟩
  exact ended.trans (carries_of_same node?_detach)

theorem carries_failWriting (e : RpcError) : net.Carries side (net.failWriting side e) :=
  (carries_note side _).trans (carries_endWriting side)

theorem carries_afterWrite (faults : Faults) (count : Nat) (slices : List (List UInt8)) :
    net.Carries side (net.afterWrite side faults count slices) := by
  have wrote (w : FrameWriter) :
      net.Carries side (net.mapNode side fun n => { n with writer := some w }) :=
    carries_mapNode side fun _ => ⟨rfl, rfl, rfl, rfl⟩
  unfold afterWrite
  split
  · exact carries_failWriting _
  · split
    · exact carries_failWriting _
    · exact wrote _
  · exact wrote _

theorem carries_stepWriting (w : FrameWriter) (heeds : Bool) :
    net.Carries side (net.stepWriting side n w heeds) := by
  unfold stepWriting
  split
  · exact carries_endWriting side
  · split
    · simp only
      split
      · split
        · exact (carries_mapPipeFrom side _).trans (carries_endWriting side)
        · exact .refl net side
      · exact carries_mapNode side fun _ => ⟨rfl, rfl, rfl, rfl⟩
    · split
      · exact .refl net side
      · split
        · exact .refl net side
        · exact carries_failWriting _
        · exact (carries_mapPipeFrom side _).trans (carries_afterWrite _ _ _)

theorem carries_endReading (side : Side) : net.Carries side (net.endReading side) := by
  have ended : net.Carries side (net.mapNode side Node.endReading) :=
    carries_mapNode side fun _ => ⟨rfl, rfl, rfl, rfl⟩
  exact ended.trans (carries_of_same node?_detach)

theorem carries_finishReading (ending : Except RpcError Unit) :
    net.Carries side (net.finishReading side ending) :=
  (carries_note side _).trans (carries_endReading side)

theorem carries_afterRead (r : FrameReader) (before : Nat) (piece : List UInt8) :
    net.Carries side (net.afterRead side r before piece) := by
  have received (frames : List Frame) :
      net.Carries side (net.mapNode side (·.receiveFrames frames)) := by
    refine carries_mapNode side fun n => ?_
    unfold Node.receiveFrames
    split <;> exact ⟨rfl, rfl, rfl, rfl⟩
  unfold afterRead
  split
  · exact carries_finishReading _
  · simp only
    split
    · exact carries_finishReading _
    · split
      · exact (received _).trans (carries_finishReading _)
      · exact (received _).trans (carries_mapNode side fun _ => ⟨rfl, rfl, rfl, rfl⟩)

theorem carries_stepReading (r : FrameReader) (before : Nat) (heeds : Bool) :
    net.Carries side (net.stepReading side n r before heeds) := by
  unfold stepReading
  split
  · exact carries_endReading side
  · split
    · exact .refl net side
    · split
      · exact .refl net side
      · exact carries_finishReading _
      · exact (carries_mapPipeFrom _ _).trans (carries_afterRead _ _ _)

/-! ### Agents -/

theorem spares_step (agent : Agent) : net.Spares agent.side (net.step agent) := by
  cases agent with
  | sentinel side =>
    rw [step]
    split
    · split
      · exact spares_mapNode side _
      · exact .refl net side
    · exact .refl net side
  | receiving side heeds =>
    rw [step]
    split
    · split
      · exact spares_stepReceiving heeds
      · exact .refl net side
    · exact .refl net side
  | writing side heeds =>
    rw [step]
    split
    · split
      · exact (carries_stepWriting _ heeds).spares
      · exact .refl net side
    · exact .refl net side
  | reading side heeds =>
    rw [step]
    split
    · split
      · exact (carries_stepReading _ _ heeds).spares
      · exact .refl net side
    · exact .refl net side
  | task side serial =>
    rw [step]
    split
    · split
      · exact spares_stepTask _
      · exact .refl net side
    · exact .refl net side
  | timer side ticket =>
    rw [step]
    split
    · split
      · exact spares_mapNode side _
      · exact .refl net side
    · exact .refl net side

theorem spares_cancel (side : Side) (loop : Loop) : net.Spares side (net.cancel side loop) := by
  unfold cancel
  split
  · exact .refl net side
  · cases loop with
    | receiving =>
      simp only
      split
      · exact spares_endReceiving side
      · exact .refl net side
    | writing =>
      simp only
      split
      · exact (carries_endWriting side).spares
      · exact .refl net side
    | reading =>
      simp only
      split
      · exact (carries_endReading side).spares
      · exact .refl net side

theorem spares_askNode (what : Session.Ask) : net.Spares side (Session.askNode net side n what).2 := by
  unfold Session.askNode
  split
  · exact spares_atEndpoint _
  · split
    · exact spares_atEndpoint _
    · exact .refl net side
  · exact spares_mapNode side _
  · exact spares_mapNode side _

end Network

namespace Scene

variable {s : Scene} {side : Side} {n : Node}

theorem spares_actFar {net : Network} (act : FarAct) : net.Spares side (net.actFar act) := by
  unfold Network.actFar
  split
  · exact .refl net side
  · cases act with
    | close =>
      exact ((Network.carries_mapPipeFrom _ _).trans (Network.carries_mapPipeFrom _ _)).spares
    | write | shutdown | drain => exact (Network.carries_mapPipeFrom _ _).spares

theorem held_step_other {ev : Incident} (elsewhere : ev.side? ≠ some side) :
    (s.step ev).held side = s.held side := by
  have held (other : Side) (calls : List (Nat × Id)) (apart : other ≠ side) :
      (s.hold other calls).held side = s.held side := if_neg (Ne.symm apart)
  have forgot (other : Side) (ticket : Nat) (apart : other ≠ side) :
      (s.forget other ticket).held side = s.held side := if_neg (Ne.symm apart)
  cases ev with
  | launch other what =>
    simp only [step]
    split
    · exact held other _ fun same => elsewhere (congrArg some same)
    · rfl
  | poll other ticket =>
    simp only [step]
    split
    · split
      · exact forgot other ticket fun same => elsewhere (congrArg some same)
      · rfl
    · rfl
  | drop other ticket =>
    simp only [step]
    split
    · exact forgot other ticket fun same => elsewhere (congrArg some same)
    · rfl
  | run other script | ask other what =>
    simp only [step]
    split <;> rfl
  | go _ | abort _ _ | openGate _ _ | pass _ | cancel _ _ | far _ => rfl

/-- What happens at no side spares both. -/
theorem spares_step (s : Scene) (ev : Incident) (nowhere : Side) :
    s.net.Spares (ev.side?.getD nowhere) (s.step ev).net := by
  cases ev with
  | go agent => exact Network.spares_step agent
  | launch other what =>
    simp only [step]
    split
    · exact Network.spares_mapNode other _
    · exact .refl _ _
  | poll other ticket =>
    simp only [step]
    split
    · split
      · exact Network.spares_mapNode other _
      · exact .refl _ _
    · exact .refl _ _
  | drop other ticket =>
    simp only [step]
    split
    · exact Network.spares_mapNode other _
    · exact .refl _ _
  | run other script =>
    simp only [step]
    split
    · exact Network.spares_spawn _ _
    · exact .refl _ _
  | ask other what =>
    simp only [step]
    split
    · exact Network.spares_askNode what
    · exact .refl _ _
  | abort other serial => exact Network.spares_mapNode other _
  | openGate ticket opening => exact Network.spares_openGate ticket opening
  | pass span => exact Network.spares_of_same fun other => by cases other <;> rfl
  | cancel other loop => exact Network.spares_cancel other loop
  | far act => exact spares_actFar act

/-- What happens elsewhere leaves a side alone, and the calls that are held there. -/
theorem bystands_step {ev : Incident} (elsewhere : ev.side? ≠ some side)
    (here : s.net.node? side = some n) :
    ∃ n', (s.step ev).net.node? side = some n' ∧ n.Bystands n' := by
  obtain ⟨n', there, bystands⟩ := (s.spares_step ev side.other).node here
  refine ⟨n', there, bystands fun same => ?_⟩
  cases acting : ev.side? with
  | none =>
    rw [acting] at same
    exact side.other_ne same.symm
  | some other =>
    rw [acting] at same elsewhere
    exact elsewhere (congrArg some same.symm)

/-- Whatever happens elsewhere changes nothing for those who hold calls at a side. -/
theorem bystands_run {events : List Incident} (elsewhere : ∀ ev ∈ events, ev.side? ≠ some side)
    (here : s.net.node? side = some n) :
    ∃ n', (s.run events).net.node? side = some n' ∧ n.Bystands n' ∧
      (s.run events).held side = s.held side := by
  induction events generalizing s n with
  | nil => exact ⟨n, here, .refl n, rfl⟩
  | cons ev events ih =>
    obtain ⟨apart, rest⟩ := List.forall_mem_cons.mp elsewhere
    obtain ⟨n', there, first⟩ := bystands_step apart here
    obtain ⟨n'', after, more, held⟩ := ih rest there
    exact ⟨n'', after, first.trans more, held.trans (held_step_other apart)⟩

end Scene

end DuplexRpc

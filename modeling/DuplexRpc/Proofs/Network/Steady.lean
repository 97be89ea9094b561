import DuplexRpc.Proofs.Closing.Bystanders
import DuplexRpc.Proofs.Endpoint.Dispatch
import DuplexRpc.Proofs.Network.Tasks

/-! What leaves the handlers of all nodes as they are: none is registered, none starts and none ends, and
nothing is counted. This is so of all that can go on in a network but for messages that come in, for
handlers that end or are given up, and for registrations. -/

namespace DuplexRpc

open ByteStream

namespace Task

/-- The handler that a task runs, with the serial number of the task. -/
def run? (t : Task) : Option (Nat × Origin) :=
  match t.role with
  | .handler origin => some (t.serial, origin)
  | .caller => none

/-- The handlers that tasks run. -/
def runs (tasks : List Task) : List (Nat × Origin) :=
  tasks.filterMap run?

variable {tasks tasks' : List Task}

theorem runs_append : runs (tasks ++ tasks') = runs tasks ++ runs tasks' :=
  List.filterMap_append

theorem runs_of_tags (tags : tasks'.map tag = tasks.map tag) : runs tasks' = runs tasks := by
  have same (tasks : List Task) : runs tasks = (tasks.map tag).filterMap fun x =>
      match x.2 with
      | .handler origin => some (x.1, origin)
      | .caller => none := by
    rw [List.filterMap_map]
    rfl
  rw [same, same, tags]

theorem runs_filter (tasks : List Task) (serial : Nat) :
    runs (tasks.filter (·.serial != serial)) = (runs tasks).filter (·.1 != serial) := by
  rw [runs, runs, List.filterMap_filter, List.filter_filterMap]
  refine List.filterMap_congr fun t _ => ?_
  unfold run?
  cases t.role with
  | handler origin => rfl
  | caller => exact ite_self none

theorem serials_runs (tasks : List Task) :
    ((runs tasks).map Prod.fst).Sublist (tasks.map serial) := by
  induction tasks with
  | nil => exact .slnil
  | cons t tasks ih =>
    rw [runs, List.filterMap_cons, run?]
    cases t.role with
    | handler origin => exact ih.cons_cons _
    | caller => exact ih.cons _

end Task

/-- The handlers of a node are as they were. -/
structure Node.Steady (n n' : Node) : Prop where
  roster : n'.endpoint.roster = n.endpoint.roster
  runs : Task.runs n'.tasks = Task.runs n.tasks

namespace Node

variable {n n' n'' : Node}

theorem Steady.refl (n : Node) : n.Steady n :=
  ⟨rfl, rfl⟩

theorem Steady.trans (h : n.Steady n') (h' : n'.Steady n'') : n.Steady n'' :=
  ⟨h'.roster.trans h.roster, h'.runs.trans h.runs⟩

theorem steady_of_tags (roster : n'.endpoint.roster = n.endpoint.roster)
    (tags : n'.tasks.map Task.tag = n.tasks.map Task.tag) : n.Steady n' :=
  ⟨roster, Task.runs_of_tags tags⟩

theorem steady_open (n : Node) (ticket : Nat) (opening : Opening) :
    n.Steady { n with tasks := n.tasks.map (·.open_ ticket opening) } :=
  steady_of_tags rfl (Task.Advance.map fun t _ => t.follows_open ticket opening).tags

theorem steady_setStand (n : Node) (serial : Nat) (stand : Stand) :
    n.Steady (n.setStand serial stand) := by
  refine steady_of_tags rfl ?_
  rw [setStand, List.map_map]
  refine List.map_congr_left fun t _ => ?_
  simp only [Function.comp]
  split <;> rfl

theorem steady_releaseFrom (n m : Node) : m.Steady (n.releaseFrom m) := by
  unfold releaseFrom
  split <;> exact ⟨rfl, rfl⟩

/-- The run of a task leaves with it. -/
theorem runs_removeTask (n : Node) (serial : Nat) :
    (n.removeTask serial).endpoint.roster = n.endpoint.roster ∧
      Task.runs (n.removeTask serial).tasks = (Task.runs n.tasks).filter (·.1 != serial) := by
  have released := n.steady_releaseFrom { n with tasks := n.tasks.filter (·.serial != serial) }
  exact ⟨released.roster, released.runs.trans (Task.runs_filter n.tasks serial)⟩

end Node

namespace Network

variable {net net' net'' : Network} {side : Side} {n : Node}

def Steady (net net' : Network) : Prop :=
  net.Nodewise net' fun _ n n' => n.Steady n'

theorem Steady.trans (h : net.Steady net') (h' : net'.Steady net'') : net.Steady net'' :=
  Nodewise.trans h h' fun _ _ _ _ => Node.Steady.trans

theorem steady_of_same (nodes : ∀ side, net'.node? side = net.node? side) : net.Steady net' :=
  .of_same nodes fun _ n _ => .refl n

theorem Steady.refl (net : Network) : net.Steady net :=
  steady_of_same fun _ => rfl

theorem steady_mapNode_at {f : Node → Node} (same : ∀ n, net.node? side = some n → n.Steady (f n)) :
    net.Steady (net.mapNode side f) :=
  nodewise_mapNode side same fun n _ => .refl n

theorem steady_mapNode (side : Side) {f : Node → Node} (same : ∀ n : Node, n.Steady (f n)) :
    net.Steady (net.mapNode side f) :=
  steady_mapNode_at fun n _ => same n

/-- A node changes in what has nothing to do with handlers. -/
theorem steady_mapNode_rfl (side : Side) {f : Node → Node}
    (roster : ∀ n, (f n).endpoint.roster = n.endpoint.roster)
    (tasks : ∀ n, (f n).tasks = n.tasks) : net.Steady (net.mapNode side f) :=
  steady_mapNode side fun n => ⟨roster n, congrArg Task.runs (tasks n)⟩

theorem steady_mapPipeFrom (side : Side) (f : Pipe → Pipe) : net.Steady (net.mapPipeFrom side f) :=
  steady_of_same (node?_mapPipeFrom f)

theorem steady_mapInbox (side : Side) (f : Mailbox → Mailbox) : net.Steady (net.mapInbox side f) := by
  unfold mapInbox
  split <;> exact steady_mapNode_rfl _ (fun _ => rfl) fun _ => rfl

theorem steady_note (side : Side) (x : Note) : net.Steady (net.mapNode side (·.note x)) :=
  steady_mapNode_rfl side (fun _ => rfl) fun _ => rfl

/-! ### Tasks -/

theorem steady_openGate (ticket : Nat) (opening : Opening) : net.Steady (net.openGate ticket opening) :=
  (steady_mapNode .a fun n => n.steady_open ticket opening).trans
    (steady_mapNode .b fun n => n.steady_open ticket opening)

/-- A task of a caller runs no handler. -/
theorem steady_spawn (side : Side) (script : Script) : net.Steady (net.spawn side .caller script) := by
  have placed : net.Steady (net.mapNode side fun n =>
      { n with tasks := n.tasks ++ [⟨net.nextSerial, .caller, .going script⟩] }) := by
    refine steady_mapNode side fun n => ⟨rfl, ?_⟩
    rw [Task.runs_append]
    exact List.append_nil _
  exact placed.trans (steady_of_same (node?_spawn _ script))

theorem steady_arriveAtGate (side : Side) (serial : Nat) (gate : String) (next : Opening → Script) :
    net.Steady (net.arriveAtGate side serial gate next) := by
  have placed (net : Network) : net.Steady
      { net.mapNode side (·.setStand serial (.atGate net.nextSerial next)) with
        gates := (gate, net.nextSerial) :: net.gates.filter (·.1 != gate)
        nextSerial := net.nextSerial + 1 } :=
    (steady_mapNode side fun n => n.steady_setStand serial _).trans
      (steady_of_same fun other => by cases other <;> rfl)
  unfold arriveAtGate
  split
  · exact (steady_openGate _ _).trans (placed _)
  · exact placed net

/-- A script goes on, perhaps after its endpoint did something. -/
theorem steady_goOn (here : net.node? side = some n) {e : Endpoint}
    (roster : e.roster = n.endpoint.roster) (serial : Nat) (stand : Stand) :
    net.Steady (net.mapNode side fun m => { m with endpoint := e }.setStand serial stand) := by
  refine steady_mapNode_at fun m there => ?_
  obtain rfl := Option.some.inj (here.symm.trans there)
  have done : n.Steady { n with endpoint := e } := ⟨roster, rfl⟩
  exact done.trans (Node.steady_setStand _ serial stand)

theorem steady_stepTask (here : net.node? side = some n) {t : Task} (going : t.ending? = none) :
    net.Steady (net.stepTask side n t) := by
  unfold stepTask
  split
  · rename_i script stand
    cases script with
    | done outcome => simp [Task.ending?, stand] at going
    | panic payload => simp [Task.ending?, stand] at going
    | log entry next =>
      exact (steady_mapNode side fun n => n.steady_setStand t.serial _).trans
        (steady_of_same fun other => by cases other <;> rfl)
    | wait gate next => exact steady_arriveAtGate side t.serial gate next
    | request what next => exact steady_goOn here (n.endpoint.roster_launch net.clock what) t.serial _
    | notify what next => exact steady_goOn here (n.endpoint.roster_announce what) t.serial _
    | look next => exact steady_mapNode side fun n => n.steady_setStand t.serial _
  · exact .refl net
  · rename_i call next _
    split
    · rename_i polled
      have kept := n.endpoint.roster_poll call
      rw [polled] at kept
      exact steady_goOn here kept t.serial _
    · exact .refl net

/-! ### Loops -/

theorem steady_endReceiving (side : Side) : net.Steady (net.endReceiving side) := by
  have ended : net.Steady (net.mapNode side Node.endReceiving) :=
    steady_mapNode_rfl side (fun _ => rfl) fun _ => rfl
  exact ended.trans (steady_mapInbox side _)

theorem steady_endWriting (side : Side) : net.Steady (net.endWriting side) := by
  have ended : net.Steady (net.mapNode side Node.endWriting) :=
    steady_mapNode_rfl side (fun _ => rfl) fun _ => rfl
  exact ended.trans (steady_of_same node?_detach)

theorem steady_failWriting (side : Side) (e : RpcError) : net.Steady (net.failWriting side e) :=
  (steady_note side _).trans (steady_endWriting side)

theorem steady_afterWrite (side : Side) (faults : Faults) (count : Nat)
    (slices : List (List UInt8)) : net.Steady (net.afterWrite side faults count slices) := by
  have wrote (w : FrameWriter) :
      net.Steady (net.mapNode side fun n => { n with writer := some w }) :=
    steady_mapNode_rfl side (fun _ => rfl) fun _ => rfl
  unfold afterWrite
  split
  · exact steady_failWriting side _
  · split
    · exact steady_failWriting side _
    · exact wrote _
  · exact wrote _

theorem steady_stepWriting (side : Side) (n : Node) (w : FrameWriter) (heeds : Bool) :
    net.Steady (net.stepWriting side n w heeds) := by
  unfold stepWriting
  split
  · exact steady_endWriting side
  · split
    · simp only
      split
      · split
        · exact (steady_mapPipeFrom side _).trans (steady_endWriting side)
        · exact .refl net
      · exact steady_mapNode_rfl side (fun _ => rfl) fun _ => rfl
    · split
      · exact .refl net
      · split
        · exact .refl net
        · exact steady_failWriting side _
        · exact (steady_mapPipeFrom side _).trans (steady_afterWrite side _ _ _)

theorem steady_endReading (side : Side) : net.Steady (net.endReading side) := by
  have ended : net.Steady (net.mapNode side Node.endReading) :=
    steady_mapNode_rfl side (fun _ => rfl) fun _ => rfl
  exact ended.trans (steady_of_same node?_detach)

theorem steady_finishReading (side : Side) (ending : Except RpcError Unit) :
    net.Steady (net.finishReading side ending) :=
  (steady_note side _).trans (steady_endReading side)

theorem steady_afterRead (side : Side) (r : FrameReader) (before : Nat) (piece : List UInt8) :
    net.Steady (net.afterRead side r before piece) := by
  have received (frames : List Frame) : net.Steady (net.mapNode side (·.receiveFrames frames)) := by
    refine steady_mapNode side fun n => ?_
    unfold Node.receiveFrames
    split <;> exact ⟨rfl, rfl⟩
  unfold afterRead
  split
  · exact steady_finishReading side _
  · simp only
    split
    · exact steady_finishReading side _
    · split
      · exact (received _).trans (steady_finishReading side _)
      · exact (received _).trans (steady_mapNode_rfl side (fun _ => rfl) fun _ => rfl)

theorem steady_stepReading (side : Side) (n : Node) (r : FrameReader) (before : Nat) (heeds : Bool) :
    net.Steady (net.stepReading side n r before heeds) := by
  unfold stepReading
  split
  · exact steady_endReading side
  · split
    · exact .refl net
    · split
      · exact .refl net
      · exact steady_finishReading side _
      · exact (steady_mapPipeFrom _ _).trans (steady_afterRead side _ _ _)

theorem steady_cancel (side : Side) (loop : Loop) : net.Steady (net.cancel side loop) := by
  unfold cancel
  split
  · exact .refl net
  · cases loop with
    | receiving =>
      simp only
      split
      · exact steady_endReceiving side
      · exact .refl net
    | writing =>
      simp only
      split
      · exact steady_endWriting side
      · exact .refl net
    | reading =>
      simp only
      split
      · exact steady_endReading side
      · exact .refl net

theorem steady_actFar (act : FarAct) : net.Steady (net.actFar act) := by
  unfold actFar
  split
  · exact .refl net
  · cases act with
    | close => exact (steady_mapPipeFrom _ _).trans (steady_mapPipeFrom _ _)
    | write | shutdown | drain => exact steady_mapPipeFrom _ _

theorem steady_sentinel (side : Side) : net.Steady (net.step (.sentinel side)) := by
  simp only [step]
  split
  · split
    · exact steady_mapNode_rfl side (fun _ => rfl) fun _ => rfl
    · exact .refl net
  · exact .refl net

theorem steady_timer (side : Side) (ticket : Nat) : net.Steady (net.step (.timer side ticket)) := by
  simp only [step]
  split
  · split
    · exact steady_mapNode_rfl side (fun n => n.endpoint.roster_expire _) fun _ => rfl
    · exact .refl net
  · exact .refl net

theorem steady_writing (side : Side) (heeds : Bool) :
    net.Steady (net.step (.writing side heeds)) := by
  simp only [step]
  split
  · split
    · exact steady_stepWriting side _ _ heeds
    · exact .refl net
  · exact .refl net

theorem steady_reading (side : Side) (heeds : Bool) :
    net.Steady (net.step (.reading side heeds)) := by
  simp only [step]
  split
  · split
    · exact steady_stepReading side _ _ _ heeds
    · exact .refl net
  · exact .refl net

end Network

end DuplexRpc

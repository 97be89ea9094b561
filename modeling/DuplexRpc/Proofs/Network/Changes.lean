import DuplexRpc.Proofs.Closing.Incidents
import DuplexRpc.Proofs.Endpoint.Draws

/-! All that becomes of a node, one change at a time: its endpoint works, its tasks go on, or one of the
tasks that it supervises ends, which was running until then. Whatever happens in a scene comes to such
changes. -/

namespace DuplexRpc

open ByteStream

namespace Node

inductive Change (n : Node) : Node → Prop where
  | work {e : Endpoint} (works : n.endpoint.Works e) : n.Change { n with endpoint := e }
  | tend (held : Bool) (tasks : List Task) (inbox : Mailbox) :
      n.Change { n with held, tasks, inbox }
  | write (w : FrameWriter) (writing : n.writer.isSome = true) :
      n.Change { n with writer := some w }
  | read (r : FrameReader × Nat) (reading : n.reader.isSome = true) :
      n.Change { n with reader := some r }
  | endSentinel (running : n.sentinel = true) (stopped : n.isStopped = true) :
      n.Change n.endSentinel
  | endReceiving (receiving : n.receiving = true) : n.Change n.endReceiving
  | endWriting (writing : n.writer.isSome = true) : n.Change n.endWriting
  | endReading (reading : n.reader.isSome = true) : n.Change n.endReading

abbrev Changes (n n' : Node) : Prop :=
  Relation.ReflTransGen Change n n'

theorem changes_mapEndpoint {n : Node} {f : Endpoint → Endpoint}
    (works : n.endpoint.Works (f n.endpoint)) : n.Changes (n.mapEndpoint f) :=
  .single (.work works)

theorem changes_note (n : Node) {x : Note} (idle : x.requested? = none) : n.Changes (n.note x) :=
  changes_mapEndpoint (n.endpoint.works_note idle)

theorem changes_tasks (n : Node) (tasks : List Task) : n.Changes { n with tasks } :=
  .single (.tend n.held tasks n.inbox)

theorem changes_inbox (n : Node) (inbox : Mailbox) : n.Changes { n with inbox } :=
  .single (.tend n.held n.tasks inbox)

theorem changes_receiveFrames (n : Node) (frames : List Frame) :
    n.Changes (n.receiveFrames frames) := by
  unfold receiveFrames
  split
  · exact .refl
  · exact n.changes_inbox _

theorem changes_setStand (n : Node) (serial : Nat) (stand : Stand) :
    n.Changes (n.setStand serial stand) :=
  n.changes_tasks _

theorem changes_releaseFrom (n m : Node) : m.Changes (n.releaseFrom m) := by
  unfold releaseFrom
  split
  · exact changes_mapEndpoint m.endpoint.works_release
  · exact .refl

theorem changes_removeTask (n : Node) (serial : Nat) : n.Changes (n.removeTask serial) :=
  (n.changes_tasks _).trans (n.changes_releaseFrom _)

theorem changes_letGo (n : Node) : n.Changes n.letGo :=
  (Relation.ReflTransGen.single (.tend false n.tasks n.inbox)).trans (n.changes_releaseFrom _)

end Node

namespace Network

variable {net net' net'' : Network} {side : Side} {n : Node}

def Changes (net net' : Network) : Prop :=
  net.Nodewise net' fun _ n n' => n.Changes n'

theorem Changes.trans (h : net.Changes net') (h' : net'.Changes net'') : net.Changes net'' :=
  Nodewise.trans h h' fun _ _ _ _ => Relation.ReflTransGen.trans

theorem changes_of_same (nodes : ∀ side, net'.node? side = net.node? side) : net.Changes net' :=
  .of_same nodes fun _ _ _ => .refl

theorem Changes.refl (net : Network) : net.Changes net :=
  changes_of_same fun _ => rfl

theorem changes_mapNode_at {f : Node → Node} (each : ∀ n ∈ net.node? side, n.Changes (f n)) :
    net.Changes (net.mapNode side f) :=
  nodewise_mapNode side each fun _ _ => .refl

theorem changes_mapNode (side : Side) {f : Node → Node} (each : ∀ n : Node, n.Changes (f n)) :
    net.Changes (net.mapNode side f) :=
  changes_mapNode_at fun n _ => each n

theorem changes_setEndpoint (here : net.node? side = some n) {e : Endpoint}
    (works : n.endpoint.Works e) : net.Changes (net.mapNode side fun m => { m with endpoint := e }) := by
  refine changes_mapNode_at fun m there => ?_
  obtain rfl := Option.some.inj (here.symm.trans there)
  exact .single (.work works)

theorem changes_mapPipeFrom (side : Side) (f : Pipe → Pipe) : net.Changes (net.mapPipeFrom side f) :=
  changes_of_same (node?_mapPipeFrom f)

theorem changes_mapInbox (side : Side) (f : Mailbox → Mailbox) :
    net.Changes (net.mapInbox side f) := by
  unfold mapInbox
  split
  · exact changes_mapNode _ fun n => Node.changes_mapEndpoint (n.endpoint.works_transport _)
  · exact changes_mapNode _ fun n => n.changes_inbox _

theorem changes_note (side : Side) {x : Note} (idle : x.requested? = none) :
    net.Changes (net.mapNode side (·.note x)) :=
  changes_mapNode side fun n => n.changes_note idle

/-! ### Tasks -/

theorem changes_openGate (ticket : Nat) (opening : Opening) :
    net.Changes (net.openGate ticket opening) :=
  (changes_mapNode .a fun n => n.changes_tasks _).trans (changes_mapNode .b fun n => n.changes_tasks _)

theorem changes_spawn (side : Side) (role : Role) (script : Script) :
    net.Changes (net.spawn side role script) := by
  have placed : net.Changes (net.mapNode side fun n =>
      { n with tasks := n.tasks ++ [⟨net.nextSerial, role, .going script⟩] }) :=
    changes_mapNode side fun n => n.changes_tasks _
  exact placed.trans (changes_of_same (node?_spawn role script))

theorem changes_spawnJobs (side : Side) (jobs : List Job) : net.Changes (net.spawnJobs side jobs) := by
  induction jobs generalizing net with
  | nil => exact .refl net
  | cons job jobs ih => exact (changes_spawn side (.handler job.origin) job.script).trans ih

theorem changes_atEndpoint (side : Side) {f : Endpoint → Endpoint × List Job}
    (works : ∀ e : Endpoint, e.Works (f e).1) : net.Changes (net.atEndpoint side f) := by
  unfold atEndpoint
  split
  · rename_i n here
    exact (changes_setEndpoint here (works n.endpoint)).trans (changes_spawnJobs side _)
  · exact .refl net

theorem changes_arriveAtGate (side : Side) (serial : Nat) (gate : String) (next : Opening → Script) :
    net.Changes (net.arriveAtGate side serial gate next) := by
  have placed (net : Network) : net.Changes
      { net.mapNode side (·.setStand serial (.atGate net.nextSerial next)) with
        gates := (gate, net.nextSerial) :: net.gates.filter (·.1 != gate)
        nextSerial := net.nextSerial + 1 } :=
    (changes_mapNode side fun n => n.changes_setStand serial _).trans
      (changes_of_same fun other => by cases other <;> rfl)
  unfold arriveAtGate
  split
  · exact (changes_openGate _ _).trans (placed _)
  · exact placed net

theorem changes_endTask (side : Side) (t : Task) (ending : Ending) :
    net.Changes (net.endTask side t ending) := by
  have removed (net : Network) : net.Changes (net.mapNode side (·.removeTask t.serial)) :=
    changes_mapNode side fun n => n.changes_removeTask t.serial
  unfold endTask
  split
  · refine (changes_mapNode side fun n => ?_).trans (removed _)
    exact Node.changes_mapEndpoint (n.endpoint.works_finish _ _)
  · exact (changes_of_same fun other => by cases other <;> rfl).trans (removed _)

/-- A script goes on after its endpoint did something. -/
theorem changes_goOn (here : net.node? side = some n) {e : Endpoint} (works : n.endpoint.Works e)
    (serial : Nat) (stand : Stand) :
    net.Changes (net.mapNode side fun m => { m with endpoint := e }.setStand serial stand) := by
  refine changes_mapNode_at fun m there => ?_
  obtain rfl := Option.some.inj (here.symm.trans there)
  exact .tail (.single (.work works)) (.tend _ _ _)

theorem changes_stepTask (here : net.node? side = some n) (t : Task) :
    net.Changes (net.stepTask side n t) := by
  unfold stepTask
  split
  · rename_i script _
    cases script with
    | done outcome => exact changes_endTask side t _
    | panic payload => exact changes_endTask side t _
    | log entry next =>
      exact (changes_mapNode side fun n => n.changes_setStand t.serial _).trans
        (changes_of_same fun other => by cases other <;> rfl)
    | wait gate next => exact changes_arriveAtGate side t.serial gate next
    | request what next => exact changes_goOn here (n.endpoint.works_launch net.clock what) t.serial _
    | notify what next => exact changes_goOn here (n.endpoint.works_announce what) t.serial _
    | look next => exact changes_mapNode side fun n => n.changes_setStand t.serial _
  · exact .refl net
  · rename_i call next _
    split
    · rename_i polled
      have works := n.endpoint.works_poll call
      rw [polled] at works
      exact changes_goOn here works t.serial _
    · exact .refl net

theorem changes_abort (side : Side) (serial : Nat) : net.Changes (net.abort side serial) := by
  refine changes_mapNode side fun n => ?_
  simp only
  split
  · rename_i call next _
    exact (Node.changes_mapEndpoint (n.endpoint.works_drop call)).trans (Node.changes_removeTask _ serial)
  · exact n.changes_removeTask serial

/-! ### Loops

A loop ends where it is running, so each of them is shown to run until then. -/

theorem mem_mapNode {p : Node → Prop} {f : Node → Node} (other : Side) (keeps : ∀ n, p n → p (f n))
    (all : ∀ n ∈ net.node? side, p n) : ∀ n ∈ (net.mapNode other f).node? side, p n := by
  intro n here
  rcases other.eq_or_eq_other side with rfl | rfl
  · rw [node?_mapNode_self, Option.mem_map] at here
    obtain ⟨m, there, rfl⟩ := here
    exact keeps m (all m there)
  · rw [node?_mapNode_other] at here
    exact all n here

theorem mem_mapInbox {p : Node → Prop} (other : Side) (f : Mailbox → Mailbox)
    (endpoint : ∀ n e, p n → p { n with endpoint := e }) (inbox : ∀ n box, p n → p { n with inbox := box })
    (all : ∀ n ∈ net.node? side, p n) : ∀ n ∈ (net.mapInbox other f).node? side, p n := by
  unfold mapInbox
  split
  · exact mem_mapNode _ (fun n => endpoint n _) all
  · exact mem_mapNode _ (fun n => inbox n _) all

theorem changes_endReceiving (receiving : ∀ n ∈ net.node? side, n.receiving = true) :
    net.Changes (net.endReceiving side) :=
  (changes_mapNode_at fun n here => .single (.endReceiving (receiving n here))).trans
    (changes_mapInbox side _)

theorem changes_stepReceiving (receiving : ∀ n ∈ net.node? side, n.receiving = true) (heeds : Bool) :
    net.Changes (net.stepReceiving side n heeds) := by
  have noted {net : Network} (receiving : ∀ n ∈ net.node? side, n.receiving = true) :
      net.Changes ((net.mapNode side (·.note .receivingEnded)).endReceiving side) :=
    (changes_note side rfl).trans (changes_endReceiving (mem_mapNode side (fun _ h => h) receiving))
  unfold stepReceiving
  split
  · exact changes_endReceiving receiving
  · simp only
    split
    · have popped := net.changes_mapInbox side fun box => { box with frames := box.frames.drop 1 }
      split
      · exact popped.trans (changes_atEndpoint side fun e => e.works_handleFrame _)
      · exact popped.trans
          (noted (mem_mapInbox side _ (fun _ _ h => h) (fun _ _ h => h) receiving))
    · split
      · exact noted receiving
      · exact .refl net

theorem changes_endWriting (writing : ∀ n ∈ net.node? side, n.writer.isSome = true) :
    net.Changes (net.endWriting side) :=
  (changes_mapNode_at fun n here => .single (.endWriting (writing n here))).trans
    (changes_of_same node?_detach)

theorem changes_failWriting (writing : ∀ n ∈ net.node? side, n.writer.isSome = true) (err : RpcError) :
    net.Changes (net.failWriting side err) :=
  (changes_note side rfl).trans (changes_endWriting (mem_mapNode side (fun _ h => h) writing))

theorem changes_afterWrite (writing : ∀ n ∈ net.node? side, n.writer.isSome = true) (faults : Faults)
    (count : Nat) (slices : List (List UInt8)) :
    net.Changes (net.afterWrite side faults count slices) := by
  have wrote (w : FrameWriter) :
      net.Changes (net.mapNode side fun n => { n with writer := some w }) :=
    changes_mapNode_at fun n here => .single (.write w (writing n here))
  unfold afterWrite
  split
  · exact changes_failWriting writing _
  · split
    · exact changes_failWriting writing _
    · exact wrote _
  · exact wrote _

theorem changes_stepWriting (writing : ∀ n ∈ net.node? side, n.writer.isSome = true) (w : FrameWriter)
    (heeds : Bool) : net.Changes (net.stepWriting side n w heeds) := by
  unfold stepWriting
  split
  · exact changes_endWriting writing
  · split
    · simp only
      split
      · split
        · refine (changes_mapPipeFrom side _).trans (changes_endWriting ?_)
          simpa only [node?_mapPipeFrom] using writing
        · exact .refl net
      · refine changes_mapNode_at fun n here => ?_
        exact .tail (.single (.write _ (writing n here))) (.work (Endpoint.works_transport _ _))
    · split
      · exact .refl net
      · split
        · exact .refl net
        · exact changes_failWriting writing _
        · refine (changes_mapPipeFrom side _).trans (changes_afterWrite ?_ _ _ _)
          simpa only [node?_mapPipeFrom] using writing

theorem changes_endReading (reading : ∀ n ∈ net.node? side, n.reader.isSome = true) :
    net.Changes (net.endReading side) :=
  (changes_mapNode_at fun n here => .single (.endReading (reading n here))).trans
    (changes_of_same node?_detach)

theorem changes_finishReading (reading : ∀ n ∈ net.node? side, n.reader.isSome = true)
    (ending : Except RpcError Unit) : net.Changes (net.finishReading side ending) := by
  refine (changes_note side ?_).trans (changes_endReading (mem_mapNode side (fun _ h => h) reading))
  cases ending <;> rfl

theorem changes_afterRead (reading : ∀ n ∈ net.node? side, n.reader.isSome = true) (r : FrameReader)
    (before : Nat) (piece : List UInt8) : net.Changes (net.afterRead side r before piece) := by
  unfold afterRead
  split
  · exact changes_finishReading reading _
  · simp only
    split
    · exact changes_finishReading reading _
    · have received : ∀ n ∈ (net.mapNode side (·.receiveFrames (r.feed piece).1)).node? side,
          n.reader.isSome = true :=
        mem_mapNode side (fun n h => (congrArg Option.isSome (reader_receiveFrames n _)).trans h) reading
      have taken : net.Changes (net.mapNode side (·.receiveFrames (r.feed piece).1)) :=
        changes_mapNode side fun n => n.changes_receiveFrames _
      split
      · exact taken.trans (changes_finishReading received _)
      · exact taken.trans (changes_mapNode_at fun n here => .single (.read _ (received n here)))

theorem changes_stepReading (reading : ∀ n ∈ net.node? side, n.reader.isSome = true) (r : FrameReader)
    (before : Nat) (heeds : Bool) : net.Changes (net.stepReading side n r before heeds) := by
  unfold stepReading
  split
  · exact changes_endReading reading
  · split
    · exact .refl net
    · split
      · exact .refl net
      · exact changes_finishReading reading _
      · refine (changes_mapPipeFrom _ _).trans (changes_afterRead ?_ _ _ _)
        simpa only [node?_mapPipeFrom] using reading

/-! ### Agents -/

theorem all_of_some {p : Node → Prop} (here : net.node? side = some n) (holds : p n) :
    ∀ m ∈ net.node? side, p m := by
  simp [here, holds]

theorem changes_step (agent : Agent) : net.Changes (net.step agent) := by
  cases agent with
  | sentinel side =>
    rw [step]
    split
    · rename_i n here
      split
      · rename_i stopped
        rw [Bool.and_eq_true] at stopped
        refine changes_mapNode_at fun m there => ?_
        obtain rfl := Option.some.inj (here.symm.trans there)
        exact .single (.endSentinel stopped.1 stopped.2)
      · exact .refl net
    · exact .refl net
  | receiving side heeds =>
    rw [step]
    split
    · rename_i n here
      split
      · rename_i receiving
        exact changes_stepReceiving (all_of_some here receiving) heeds
      · exact .refl net
    · exact .refl net
  | writing side heeds =>
    rw [step]
    split
    · rename_i n here
      split
      · rename_i w writing
        exact changes_stepWriting (all_of_some here (Option.isSome_of_eq_some writing)) w heeds
      · exact .refl net
    · exact .refl net
  | reading side heeds =>
    rw [step]
    split
    · rename_i n here
      split
      · rename_i r before reading
        exact changes_stepReading (all_of_some here (Option.isSome_of_eq_some reading)) r before heeds
      · exact .refl net
    · exact .refl net
  | task side serial =>
    rw [step]
    split
    · rename_i n here
      split
      · exact changes_stepTask here _
      · exact .refl net
    · exact .refl net
  | timer side ticket =>
    rw [step]
    split
    · split
      · exact changes_mapNode side fun n => Node.changes_mapEndpoint (n.endpoint.works_expire _)
      · exact .refl net
    · exact .refl net

theorem changes_cancel (side : Side) (loop : Loop) : net.Changes (net.cancel side loop) := by
  unfold cancel
  split
  · exact .refl net
  · rename_i n here
    cases loop with
    | receiving =>
      simp only
      split
      · rename_i receiving
        exact changes_endReceiving (all_of_some here receiving)
      · exact .refl net
    | writing =>
      simp only
      split
      · rename_i writing
        exact changes_endWriting (all_of_some here writing)
      · exact .refl net
    | reading =>
      simp only
      split
      · rename_i reading
        exact changes_endReading (all_of_some here reading)
      · exact .refl net

theorem changes_actFar (act : FarAct) : net.Changes (net.actFar act) := by
  unfold actFar
  split
  · exact .refl net
  · cases act with
    | close => exact (changes_mapPipeFrom _ _).trans (changes_mapPipeFrom _ _)
    | write | shutdown | drain => exact changes_mapPipeFrom _ _

theorem changes_askNode (here : net.node? side = some n) (what : Session.Ask) :
    net.Changes (Session.askNode net side n what).2 := by
  unfold Session.askNode
  split
  · exact changes_atEndpoint side fun e => e.works_handleFrame _
  · split
    · exact changes_atEndpoint side fun e => e.works_handle _
    · exact .refl net
  · exact changes_mapNode side fun n => n.changes_letGo
  · exact changes_setEndpoint here (n.endpoint.works_consult _)

end Network

namespace Scene

variable {s : Scene}

theorem changes_step (s : Scene) (ev : Incident) : s.net.Changes (s.step ev).net := by
  cases ev with
  | go agent => exact Network.changes_step agent
  | launch side what =>
    simp only [step]
    split
    · rename_i n found
      obtain ⟨here, -⟩ := holder?_eq_some found
      exact Network.changes_setEndpoint here (n.endpoint.works_launch s.net.clock what)
    · exact .refl s.net
  | run side script =>
    simp only [step]
    split
    · exact Network.changes_spawn side .caller script
    · exact .refl s.net
  | ask side what =>
    simp only [step]
    split
    · rename_i n found
      obtain ⟨here, -⟩ := holder?_eq_some found
      exact Network.changes_askNode here what
    · exact .refl s.net
  | poll side ticket =>
    simp only [step]
    split
    · rename_i n id here _
      have works := n.endpoint.works_poll (.waiting id ticket)
      split
      · rename_i polled
        rw [polled] at works
        exact Network.changes_setEndpoint here works
      · exact .refl s.net
    · exact .refl s.net
  | drop side ticket =>
    simp only [step]
    split
    · rename_i id _
      exact Network.changes_mapNode side fun n =>
        Node.changes_mapEndpoint (n.endpoint.works_drop (.waiting id ticket))
    · exact .refl s.net
  | abort side serial => exact Network.changes_abort side serial
  | openGate ticket opening => exact Network.changes_openGate ticket opening
  | pass span => exact Network.changes_of_same fun other => by cases other <;> rfl
  | cancel side loop => exact Network.changes_cancel side loop
  | far act => exact Network.changes_actFar act

/-- The nodes from which scenes start. -/
theorem Starts.node {net : Network} (starts : Starts net) {side : Side} {n : Node}
    (here : net.node? side = some n) :
    ∃ s : Setup, (∃ transport, n = s.node transport) ∨ n = s.queueNode ∨
      ∃ faults, n = s.streamNode faults := by
  cases starts with
  | lone a =>
    cases side with
    | a => exact ⟨a, .inl ⟨_, (Option.some.inj here).symm⟩⟩
    | b => cases here
  | connect joined =>
    rw [Network.connect] at joined
    split at joined
    · obtain rfl := Except.ok.inj joined
      cases side <;> exact ⟨_, .inr (.inl (Option.some.inj here).symm)⟩
    · cases joined
  | connectStream a b capacity =>
    cases side <;> exact ⟨_, .inr (.inr ⟨_, (Option.some.inj here).symm⟩)⟩
  | attach a capacity faults =>
    cases side with
    | a => exact ⟨a, .inr (.inr ⟨faults, (Option.some.inj here).symm⟩)⟩
    | b => cases here

theorem changes_run (s : Scene) (events : List Incident) : s.net.Changes (s.run events).net := by
  induction events generalizing s with
  | nil => exact .refl s.net
  | cons ev events ih => exact (s.changes_step ev).trans (ih (s.step ev))

end Scene

end DuplexRpc

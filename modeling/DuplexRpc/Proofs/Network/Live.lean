import DuplexRpc.Proofs.Endpoint.Pool
import DuplexRpc.Proofs.Network.Tasks

/-! Two live endpoints that are joined by queues. `Change` is all that one act can do to them: one
endpoint does a deed, its tasks change, and the other endpoint may lose a frame that it had sent. -/

namespace DuplexRpc

theorem Side.other_other (side : Side) : side.other.other = side := by
  cases side <;> rfl

theorem Side.other_ne (side : Side) : side.other ≠ side := by
  cases side <;> decide

theorem Side.eq_or_eq_other (side side' : Side) : side' = side ∨ side' = side.other := by
  cases side <;> cases side' <;> decide

namespace Node

/-- The node has all that it needs to take part. -/
structure Live (codec : Codec) (n : Node) : Prop where
  held : n.held = true
  receiving : n.receiving = true
  writer : n.writer = none
  reader : n.reader = none
  stopped : n.endpoint.isStopped = false
  format : n.endpoint.config.codec = codec
  transport : ∃ frames, n.endpoint.transport = .queue codec none { frames }

variable {codec : Codec} {n : Node}

theorem Live.isStopped (h : n.Live codec) : n.isStopped = false :=
  h.stopped

theorem Live.isHeld (h : n.Live codec) : n.isHeld = true := by
  rw [Node.isHeld, h.held, Bool.true_or]

/-- A node whose owner holds it stays as it is when a task ends. -/
theorem removeTask_of_held (h : n.held = true) (serial : Nat) :
    n.removeTask serial = { n with tasks := n.tasks.filter (·.serial != serial) } := by
  simp only [removeTask, releaseFrom, Node.isHeld, h, Bool.true_or, Bool.not_true, Bool.and_false,
    Bool.false_eq_true, if_false]

end Node

/-- A deed that ends no task and handles no frame. -/
def Deed.IsCall (e : Endpoint) : Deed → Prop
  | .handle _ | .finish _ _ => False
  | .expire t => t ∈ e.pool.timers
  | _ => True

namespace Network

variable {codec : Codec} {net net' : Network} {side : Side}

/-- The network joins two live nodes by queues. -/
structure Live (codec : Codec) (net : Network) : Prop where
  link : net.link = .queues
  paired : net.b.isSome = true
  node : ∀ side, (net.at_ side).Live codec

/-- The tasks of a side have different serial numbers, all of which were given away. -/
structure Numbered (net : Network) : Prop where
  below : ∀ side, ∀ t ∈ (net.at_ side).tasks, t.serial < net.nextSerial
  apart : ∀ side, ((net.at_ side).tasks.map Task.serial).Nodup

/-! ### The nodes of a pair -/

theorem node?_eq_at (paired : net.b.isSome = true) (side : Side) :
    net.node? side = some (net.at_ side) := by
  obtain ⟨n, hb⟩ := Option.isSome_iff_exists.mp paired
  cases side
  · rfl
  · simp only [at_, node?, hb, Option.getD_some]

@[simp] theorem isSome_mapNode (f : Node → Node) : (net.mapNode side f).b.isSome = net.b.isSome := by
  cases side <;> simp [mapNode]

@[simp] theorem link_mapNode (f : Node → Node) : (net.mapNode side f).link = net.link := by
  cases side <;> rfl

@[simp] theorem nextSerial_mapNode (f : Node → Node) :
    (net.mapNode side f).nextSerial = net.nextSerial := by
  cases side <;> rfl

theorem at_mapNode (paired : net.b.isSome = true) (f : Node → Node) :
    (net.mapNode side f).at_ side = f (net.at_ side) := by
  obtain ⟨n, hb⟩ := Option.isSome_iff_exists.mp paired
  cases side <;> simp [at_, node?, mapNode, hb]

theorem at_other_mapNode (paired : net.b.isSome = true) (f : Node → Node) :
    (net.mapNode side f).at_ side.other = net.at_ side.other := by
  obtain ⟨n, hb⟩ := Option.isSome_iff_exists.mp paired
  cases side <;> simp [at_, node?, mapNode, Side.other, hb]

theorem mapNode_mapNode (f g : Node → Node) :
    (net.mapNode side f).mapNode side g = net.mapNode side (g ∘ f) := by
  cases side
  · rfl
  · simp only [mapNode, Option.map_map]

theorem at_openGate (paired : net.b.isSome = true) (ticket : Nat) (opening : Opening) (side : Side) :
    (net.openGate ticket opening).at_ side =
      { net.at_ side with tasks := (net.at_ side).tasks.map (·.open_ ticket opening) } := by
  obtain ⟨n, hb⟩ := Option.isSome_iff_exists.mp paired
  cases side <;> simp [at_, node?, openGate, mapNode, hb]

/-- The frames that a side sent and the other side did not take. -/
def leaving (net : Network) (side : Side) : List Frame :=
  (net.endpoint side).transport.box.frames

theorem Live.inbox (live : net.Live codec) (side : Side) :
    net.inbox side = { frames := net.leaving side.other } := by
  obtain ⟨frames, sent⟩ := (live.node side.other).transport
  simp only [Network.inbox, live.link, node?_eq_at live.paired, leaving, endpoint, sent, Option.map_some,
    Option.getD_some, Transport.box]

/-! ### Acts -/

/-- What an act can make of a network: at `side` the endpoint does `d` and the tasks become
`tasks`; the other endpoint loses `popped` of the frames that it sent, and its tasks stay. -/
structure Change (net net' : Network) (side : Side) (d : Deed) (popped : Nat) (tasks : List Task)
    (serial : Nat) : Prop where
  link : net'.link = net.link
  paired : net'.b.isSome = true
  serial : net'.nextSerial = serial
  here : net'.at_ side =
    { net.at_ side with endpoint := d.run net.clock (net.endpoint side), tasks }
  there : ∃ far, Task.Advance (net.at_ side.other).tasks far ∧
    net'.at_ side.other =
      { net.at_ side.other with
        endpoint := (net.endpoint side.other).via ((net.endpoint side.other).transport.mapBox
          fun box => { box with frames := box.frames.drop popped })
        tasks := far }

/-- Which deeds go with which changes of the tasks and of the next serial number. -/
inductive Turn (net : Network) (side : Side) : Deed → Nat → List Task → (serial : Nat) → Prop where
  | call (d : Deed) (tasks : List Task) (serial : Nat) (isCall : d.IsCall (net.endpoint side))
      (advance : Task.Advance (net.at_ side).tasks tasks) (le : net.nextSerial ≤ serial) :
      Turn net side d 0 tasks serial
  | spawn (script : Script) :
      Turn net side .nothing 0
        ((net.at_ side).tasks ++ [⟨net.nextSerial, .caller, .going script⟩]) (net.nextSerial + 1)
  | frame (frame : Frame) (rest : List Frame) (first : net.leaving side.other = frame :: rest) :
      Turn net side (.handle frame) 1
        ((net.at_ side).tasks ++
          Task.ofJobs net.nextSerial ((net.endpoint side).handleFrame frame).2)
        (net.nextSerial + ((net.endpoint side).handleFrame frame).2.length)
  | finish (t : Task) (origin : Origin) (ending : Ending) (mem : t ∈ (net.at_ side).tasks)
      (role : t.role = .handler origin) (ends : t.ending? = some ending) :
      Turn net side (.finish origin ending) 0
        ((net.at_ side).tasks.filter (·.serial != t.serial)) net.nextSerial
  | returned (t : Task) (ending : Ending) (mem : t ∈ (net.at_ side).tasks) (role : t.role = .caller)
      (ends : t.ending? = some ending) :
      Turn net side .nothing 0
        ((net.at_ side).tasks.filter (·.serial != t.serial)) net.nextSerial

/-- The network goes on to `net'` by a deed of `side`. -/
def Goes (net net' : Network) (side : Side) (d : Deed) : Prop :=
  ∃ popped tasks serial, net.Turn side d popped tasks serial ∧
    Change net net' side d popped tasks serial

theorem via_drop_zero (e : Endpoint) :
    e.via (e.transport.mapBox fun box => { box with frames := box.frames.drop 0 }) = e := by
  cases e with
  | mk config registry transport ids pool supervisor counters notes => cases transport <;> rfl

/-- A change of the node of one side alone. -/
theorem Live.change_of_mapNode (live : net.Live codec) (net' : Network) (f : Node → Node)
    {d : Deed} {tasks : List Task} (a : net'.a = (net.mapNode side f).a)
    (b : net'.b = (net.mapNode side f).b) (link : net'.link = net.link)
    (hf : f (net.at_ side) =
      { net.at_ side with endpoint := d.run net.clock (net.endpoint side), tasks }) :
    Change net net' side d 0 tasks net'.nextSerial := by
  have same : ∀ side', net'.at_ side' = (net.mapNode side f).at_ side' := by
    intro side'
    cases side' <;> simp only [at_, node?, a, b]
  refine ⟨link, ?_, rfl, ?_, (net.at_ side.other).tasks, .refl _, ?_⟩
  · rw [b, isSome_mapNode]
    exact live.paired
  · rw [same, at_mapNode live.paired, hf]
  · rw [same, at_other_mapNode live.paired, via_drop_zero]
    rfl

theorem Live.goes_nowhere (live : net.Live codec) (side : Side) : net.Goes net side .nothing := by
  refine ⟨0, (net.at_ side).tasks, net.nextSerial,
    .call _ _ _ trivial (.refl _) (Nat.le_refl _), ?_⟩
  exact ⟨rfl, live.paired, rfl, rfl, _, .refl _, by rw [via_drop_zero]; rfl⟩

/-- A call, which changes where tasks stand at most. -/
theorem Live.goes_call (live : net.Live codec) {d : Deed} {f : Node → Node}
    (isCall : d.IsCall (net.endpoint side)) (tasks : List Task)
    (advance : Task.Advance (net.at_ side).tasks tasks) (a : net'.a = (net.mapNode side f).a)
    (b : net'.b = (net.mapNode side f).b) (link : net'.link = net.link)
    (serial : net'.nextSerial = net.nextSerial)
    (hf : f (net.at_ side) =
      { net.at_ side with endpoint := d.run net.clock (net.endpoint side), tasks }) :
    net.Goes net' side d :=
  ⟨0, tasks, _, .call d tasks _ isCall advance (Nat.le_of_eq serial.symm),
    live.change_of_mapNode _ f a b link hf⟩

theorem Live.goes_openGate (live : net.Live codec) (side : Side) (ticket : Nat)
    (opening : Opening) : net.Goes (net.openGate ticket opening) side .nothing := by
  have advance : ∀ side', Task.Advance (net.at_ side').tasks
      ((net.at_ side').tasks.map (·.open_ ticket opening)) :=
    fun _ => .map fun t _ => t.follows_open ticket opening
  refine ⟨0, _, net.nextSerial, .call _ _ _ trivial (advance side) (Nat.le_refl _), rfl, ?_, rfl,
    at_openGate live.paired ticket opening side, _, advance side.other, ?_⟩
  · simpa [openGate, mapNode] using live.paired
  · rw [at_openGate live.paired, via_drop_zero]
    rfl

/-! ### Tasks -/

/-- The end of a task, which its endpoint is told where the task ran a handler. -/
theorem Live.goes_endTask (live : net.Live codec) {t : Task} (mem : t ∈ (net.at_ side).tasks)
    {ending : Ending} (ends : t.ending? = some ending) :
    net.Goes (net.endTask side t ending) side
      (match t.role with
        | .handler origin => .finish origin ending
        | .caller => .nothing) := by
  rcases hr : t.role with origin | _
  · have finished : net.endTask side t ending =
        net.mapNode side fun n => (n.mapEndpoint (·.finish origin ending)).removeTask t.serial := by
      simp only [endTask, hr, mapNode_mapNode]
      rfl
    have changed : Change net _ side (.finish origin ending) 0 _ _ :=
      live.change_of_mapNode _ (fun n => (n.mapEndpoint (·.finish origin ending)).removeTask t.serial)
        rfl rfl (link_mapNode _) (Node.removeTask_of_held
          (n := (net.at_ side).mapEndpoint (·.finish origin ending)) (live.node side).held t.serial)
    rw [nextSerial_mapNode] at changed
    rw [finished]
    exact ⟨0, _, net.nextSerial, .finish t origin ending mem hr ends, changed⟩
  · have finished : net.endTask side t ending =
        { net with endings := net.endings ++ [(t.serial, ending.toOutcome)] }.mapNode side
          (·.removeTask t.serial) := by
      simp only [endTask, hr]
    have changed : Change net _ side .nothing 0 _ _ :=
      live.change_of_mapNode
        ({ net with endings := net.endings ++ [(t.serial, ending.toOutcome)] }.mapNode side
          (·.removeTask t.serial)) (·.removeTask t.serial)
        (by cases side <;> rfl) (by cases side <;> rfl) (link_mapNode _)
        (Node.removeTask_of_held (live.node side).held t.serial)
    rw [nextSerial_mapNode] at changed
    rw [finished]
    exact ⟨0, _, net.nextSerial, .returned t ending mem hr ends, changed⟩

theorem Live.goes_arriveAtGate (live : net.Live codec) {serial : Nat}
    (going : ∀ t ∈ (net.at_ side).tasks, t.serial = serial → t.ending? = none) (gate : String)
    (next : Opening → Script) :
    net.Goes (net.arriveAtGate side serial gate next) side .nothing := by
  obtain ⟨opened, arrived, paired, link, f, follows, passed⟩ : ∃ opened : Network,
      net.arriveAtGate side serial gate next =
        { opened.mapNode side (·.setStand serial (.atGate net.nextSerial next)) with
          gates := (gate, net.nextSerial) :: opened.gates.filter (·.1 != gate)
          nextSerial := net.nextSerial + 1 } ∧
      opened.b.isSome = true ∧ opened.link = net.link ∧
      ∃ f : Task → Task, (∀ t : Task, t.Follows (f t)) ∧
        ∀ side', opened.at_ side' = { net.at_ side' with tasks := (net.at_ side').tasks.map f } := by
    cases waiting : net.gates.lookup gate with
    | some earlier =>
      refine ⟨net.openGate earlier .dropped, ?_, ?_, rfl, _,
        fun t : Task => t.follows_open earlier .dropped, at_openGate live.paired _ _⟩
      · simp only [arriveAtGate, waiting]
      · simpa [openGate, mapNode] using live.paired
    | none =>
      refine ⟨net, ?_, live.paired, rfl, id, .refl, fun side' => ?_⟩
      · simp only [arriveAtGate, waiting]
      · rw [List.map_id]
  rw [arrived]
  have moved := Task.advance_setStand (.atGate net.nextSerial next) follows going
  refine ⟨0, _, net.nextSerial + 1, .call _ _ _ trivial moved (Nat.le_succ _),
    (link_mapNode _).trans link, by simpa using paired, rfl, ?_, _, .map fun t _ => follows t, ?_⟩
  · refine (at_mapNode paired _).trans ?_
    rw [passed]
    rfl
  · refine (at_other_mapNode paired _).trans ?_
    rw [passed, via_drop_zero]
    rfl

theorem Live.goes_stepTask (live : net.Live codec) (numbered : net.Numbered) {t : Task}
    (mem : t ∈ (net.at_ side).tasks) :
    net.Goes (net.stepTask side (net.at_ side) t) side t.deed := by
  have going : t.ending? = none →
      ∀ u ∈ (net.at_ side).tasks, u.serial = t.serial → u.ending? = none :=
    fun none u hu same => Task.eq_of_serial (numbered.apart side) hu mem same ▸ none
  have moved : t.ending? = none → ∀ stand, Task.Advance (net.at_ side).tasks
      ((net.at_ side).tasks.map fun u => if u.serial = t.serial then { u with stand } else u) := by
    intro none stand
    have advance := Task.advance_setStand stand Task.Follows.refl (going none)
    rwa [List.map_id'] at advance
  unfold stepTask Task.deed
  cases hs : t.stand with
  | atGate ticket next => exact live.goes_nowhere side
  | awaiting call next =>
    simp only
    cases hp : (net.endpoint side).poll call with
    | mk outcome rest =>
      obtain ⟨call', e⟩ := rest
      have here : (net.at_ side).endpoint.poll call = (outcome, call', e) := hp
      cases outcome with
      | some outcome =>
        simp only [here]
        refine live.goes_call trivial _ (moved (by rw [Task.ending?, hs]) (.going (next outcome)))
          rfl rfl (link_mapNode _) (nextSerial_mapNode _) ?_
        simp only [Deed.run, hp, Node.setStand]
      | none =>
        simp only [here]
        have same : (net.endpoint side).poll call = (none, call', net.endpoint side) := by
          rw [hp, ← Endpoint.poll_of_none (congrArg Prod.fst hp), hp]
        refine live.goes_call trivial (net.at_ side).tasks (.refl _) (f := id) ?_ ?_ rfl rfl ?_
        · cases side <;> rfl
        · cases side
          · rfl
          · simp only [mapNode, Option.map_id, id]
        · simp only [Deed.run, same]
          rfl
  | going script =>
    simp only
    cases script with
    | done outcome => exact live.goes_endTask mem (by rw [Task.ending?, hs])
    | panic payload => exact live.goes_endTask mem (by rw [Task.ending?, hs])
    | log entry next =>
      exact live.goes_call trivial _ (moved (by rw [Task.ending?, hs]) (.going next)) rfl rfl
        (link_mapNode _) (nextSerial_mapNode _) rfl
    | wait gate next =>
      exact live.goes_arriveAtGate (going (by rw [Task.ending?, hs])) gate next
    | request what next =>
      exact live.goes_call trivial _ (moved (by rw [Task.ending?, hs])
        (.awaiting ((net.endpoint side).launch net.clock what).1 next)) rfl rfl (link_mapNode _)
        (nextSerial_mapNode _) rfl
    | notify what next =>
      exact live.goes_call trivial _ (moved (by rw [Task.ending?, hs])
        (.going (next ((net.endpoint side).announce what).1))) rfl rfl (link_mapNode _)
        (nextSerial_mapNode _) rfl
    | look next =>
      exact live.goes_call trivial _ (moved (by rw [Task.ending?, hs])
        (.going (next (net.endpoint side).view))) rfl rfl (link_mapNode _)
        (nextSerial_mapNode _) rfl

/-! ### Jobs -/

@[simp] theorem isSome_spawn (role : Role) (script : Script) :
    (net.spawn side role script).b.isSome = net.b.isSome :=
  isSome_mapNode _

theorem at_spawn (paired : net.b.isSome = true) (role : Role) (script : Script) :
    (net.spawn side role script).at_ side =
      { net.at_ side with
        tasks := (net.at_ side).tasks ++ [⟨net.nextSerial, role, .going script⟩] } :=
  at_mapNode paired _

theorem at_other_spawn (paired : net.b.isSome = true) (role : Role) (script : Script) :
    (net.spawn side role script).at_ side.other = net.at_ side.other :=
  at_other_mapNode paired _

@[simp] theorem isSome_spawnJobs (jobs : List Job) :
    (net.spawnJobs side jobs).b.isSome = net.b.isSome := by
  induction jobs generalizing net with
  | nil => rfl
  | cons job jobs ih => exact ih.trans (isSome_spawn _ _)

@[simp] theorem link_spawnJobs (jobs : List Job) : (net.spawnJobs side jobs).link = net.link := by
  induction jobs generalizing net with
  | nil => rfl
  | cons job jobs ih => exact ih.trans (link_mapNode _)

theorem nextSerial_spawnJobs (jobs : List Job) :
    (net.spawnJobs side jobs).nextSerial = net.nextSerial + jobs.length := by
  induction jobs generalizing net with
  | nil => rfl
  | cons job jobs ih =>
    refine ih.trans ?_
    simp only [spawn, List.length_cons]
    omega

theorem at_spawnJobs (paired : net.b.isSome = true) (jobs : List Job) :
    (net.spawnJobs side jobs).at_ side =
      { net.at_ side with tasks := (net.at_ side).tasks ++ Task.ofJobs net.nextSerial jobs } := by
  induction jobs generalizing net with
  | nil => simp only [spawnJobs, List.foldl_nil, Task.ofJobs, List.append_nil]
  | cons job jobs ih =>
    refine (ih ((isSome_spawn (.handler job.origin) job.script).trans paired)).trans ?_
    rw [at_spawn paired]
    simp only [Task.ofJobs, List.append_assoc, List.singleton_append]
    rfl

theorem at_other_spawnJobs (paired : net.b.isSome = true) (jobs : List Job) :
    (net.spawnJobs side jobs).at_ side.other = net.at_ side.other := by
  induction jobs generalizing net with
  | nil => rfl
  | cons job jobs ih =>
    exact (ih ((isSome_spawn (.handler job.origin) job.script).trans paired)).trans
      (at_other_spawn paired _ _)

/-- The loop that handles frames takes a frame. -/
theorem Live.goes_frame (live : net.Live codec) {frame : Frame} {rest : List Frame}
    (first : net.leaving side.other = frame :: rest) (heeds : Bool) :
    net.Goes (net.stepReceiving side (net.at_ side) heeds) side (.handle frame) := by
  rcases hh : (net.endpoint side).handleFrame frame with ⟨e, jobs⟩
  let drop (box : Mailbox) : Mailbox := { box with frames := box.frames.drop 1 }
  let popped := net.mapNode side.other fun n => n.mapEndpoint fun e =>
    { e with transport := e.transport.mapBox drop }
  have paired : popped.b.isSome = true := (isSome_mapNode _).trans live.paired
  have here : popped.at_ side = net.at_ side := by
    have same : popped.at_ side.other.other = net.at_ side.other.other :=
      at_other_mapNode live.paired _
    rwa [side.other_other] at same
  have stepped : net.stepReceiving side (net.at_ side) heeds =
      (popped.mapNode side fun n => { n with endpoint := e }).spawnJobs side jobs := by
    have same : (popped.at_ side).endpoint.handleFrame frame = (e, jobs) := by
      rw [here]
      exact hh
    simp only [stepReceiving, (live.node side).isStopped, live.inbox, first, (live.node side).isHeld,
      Bool.false_and, Bool.false_eq_true, if_false, if_true, mapInbox, live.link]
    change popped.atEndpoint side (·.handleFrame frame) = _
    simp only [atEndpoint, node?_eq_at paired, same]
  have mapped : (popped.mapNode side fun n => { n with endpoint := e }).b.isSome = true :=
    (isSome_mapNode _).trans paired
  have turn : net.Turn side (.handle frame) 1 _ _ := .frame frame rest first
  rw [hh] at turn
  rw [stepped]
  refine ⟨_, _, _, turn, ?_, ?_, ?_, ?_, ?_⟩
  · exact (link_spawnJobs jobs).trans ((link_mapNode _).trans (link_mapNode _))
  · rw [isSome_spawnJobs, mapped]
  · rw [nextSerial_spawnJobs, nextSerial_mapNode]
    exact congrArg (· + jobs.length) (nextSerial_mapNode _)
  · rw [at_spawnJobs mapped, at_mapNode paired, here, nextSerial_mapNode]
    simp only [Deed.run, hh]
    exact congrArg (fun serial => { net.at_ side with
      endpoint := e, tasks := (net.at_ side).tasks ++ Task.ofJobs serial jobs }) (nextSerial_mapNode _)
  · refine ⟨(net.at_ side.other).tasks, .refl _, ?_⟩
    rw [at_other_spawnJobs mapped, at_other_mapNode paired, at_mapNode live.paired]
    rfl

/-! ### All acts -/

theorem Live.goes_mapEndpoint (live : net.Live codec) (side : Side) (d : Deed)
    (isCall : d.IsCall (net.endpoint side)) :
    net.Goes (net.mapNode side (·.mapEndpoint (Deed.run net.clock · d))) side d :=
  live.goes_call isCall (net.at_ side).tasks (.refl _) rfl rfl (link_mapNode _)
    (nextSerial_mapNode _) rfl

theorem Live.goes_step (live : net.Live codec) (numbered : net.Numbered) (side : Side)
    (agent : Agent) (at_side : (Act.go agent).side? = some side) :
    net.Goes (net.step agent) side (net.deed side (.go agent)) := by
  have node := live.node side
  cases agent with
  | sentinel side' =>
    obtain rfl : side' = side := Option.some.inj at_side
    simp only [step, node?_eq_at live.paired, node.isStopped, Bool.and_false, Bool.false_eq_true,
      if_false]
    exact live.goes_nowhere side'
  | writing side' heeds =>
    obtain rfl : side' = side := Option.some.inj at_side
    simp only [step, node?_eq_at live.paired, node.writer]
    exact live.goes_nowhere side'
  | reading side' heeds =>
    obtain rfl : side' = side := Option.some.inj at_side
    simp only [step, node?_eq_at live.paired, node.reader]
    exact live.goes_nowhere side'
  | receiving side' heeds =>
    obtain rfl : side' = side := Option.some.inj at_side
    simp only [step, node?_eq_at live.paired, node.receiving, if_true, deed, live.inbox]
    cases first : net.leaving side'.other with
    | nil =>
      simp only [stepReceiving, node.isStopped, live.inbox, first, Bool.false_and,
        Bool.false_eq_true, if_false]
      exact live.goes_nowhere side'
    | cons frame rest => exact live.goes_frame first heeds
  | task side' serial =>
    obtain rfl : side' = side := Option.some.inj at_side
    simp only [step, node?_eq_at live.paired, deed]
    cases found : (net.at_ side').tasks.find? (·.serial == serial) with
    | none => exact live.goes_nowhere side'
    | some t => exact live.goes_stepTask numbered (List.mem_of_find?_eq_some found)
  | timer side' ticket =>
    obtain rfl : side' = side := Option.some.inj at_side
    simp only [step, node?_eq_at live.paired, deed]
    have same : (net.endpoint side').pool.timers = (net.at_ side').endpoint.pool.timers := rfl
    rw [same]
    cases found : (net.at_ side').endpoint.pool.timers.find? fun t =>
        t.ticket == ticket && t.deadline ≤ net.clock with
    | none => exact live.goes_nowhere side'
    | some t => exact live.goes_mapEndpoint side' (.expire t) (List.mem_of_find?_eq_some found)

/-- Whatever happens, one endpoint does a deed. -/
theorem Live.goes (live : net.Live codec) (numbered : net.Numbered) (act : Act) :
    net.Goes (net.act act) (act.side?.getD .a) (net.deed (act.side?.getD .a) act) := by
  cases act with
  | go agent =>
    cases agent <;> exact live.goes_step numbered _ _ rfl
  | launch side what => exact live.goes_mapEndpoint side (.launch what) trivial
  | announce side what => exact live.goes_mapEndpoint side (.announce what) trivial
  | poll side call => exact live.goes_mapEndpoint side (.poll call) trivial
  | drop side call => exact live.goes_mapEndpoint side (.drop call) trivial
  | run side script =>
    refine ⟨0, _, _, .spawn script, ?_⟩
    exact live.change_of_mapNode _ (fun n => { n with tasks := n.tasks ++
      [⟨net.nextSerial, .caller, .going script⟩] }) rfl rfl (link_mapNode _) rfl
  | openGate ticket opening => exact live.goes_openGate _ ticket opening
  | pass span =>
    refine ⟨0, _, net.nextSerial, .call _ _ _ trivial (.refl _) (Nat.le_refl _), ?_⟩
    refine ⟨rfl, live.paired, rfl, rfl, _, .refl _, ?_⟩
    rw [via_drop_zero]
    rfl

/-! ### Networks in which nothing can go on -/

theorem Live.ableAt_of_idle (live : net.Live codec) (idle : net.able = []) (side : Side) :
    net.ableAt side (net.at_ side) = [] := by
  obtain ⟨n, hb⟩ := Option.isSome_iff_exists.mp live.paired
  rw [able, hb] at idle
  obtain ⟨a, b⟩ := List.append_eq_nil_iff.mp idle
  cases side
  · exact a
  · rw [at_, node?, hb]
    exact b

theorem Live.leaving_of_idle (live : net.Live codec) (idle : net.able = []) (side : Side) :
    net.leaving side = [] := by
  have able := live.ableAt_of_idle idle side.other
  have inbox := live.inbox side.other
  rw [side.other_other] at inbox
  simp only [ableAt, List.append_eq_nil_iff, canReceive, (live.node side.other).receiving,
    (live.node side.other).isStopped, inbox] at able
  cases frames : net.leaving side with
  | nil => rfl
  | cons frame rest =>
    rw [frames] at able
    simp at able

theorem Live.stand_of_idle (live : net.Live codec) (idle : net.able = []) {t : Task}
    (mem : t ∈ (net.at_ side).tasks) (script : Script) : t.stand ≠ .going script := by
  intro going
  have able := live.ableAt_of_idle idle side
  simp only [ableAt, List.append_eq_nil_iff, List.map_eq_nil_iff, List.filter_eq_nil_iff] at able
  apply able.1.2 t mem
  rw [canRun, going]

end Network

end DuplexRpc

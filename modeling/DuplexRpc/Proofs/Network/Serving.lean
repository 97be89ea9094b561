import DuplexRpc.Proofs.Closing.Bystanders
import DuplexRpc.Proofs.Closing.Traffic
import DuplexRpc.Proofs.Network.Docket

/-! What an endpoint offers to its transport, in every incident of a scene that has no other endpoint:
responses where it refuses a request or where the handler of a request ends, and nowhere else. All other
tasks go on. -/

namespace DuplexRpc

open ByteStream

namespace Transport

/-- What becomes of a transport in an incident: messages are offered to it, or frames are taken from
it. -/
inductive Goes (t : Transport) (ms : List Message) : Transport → Prop
  | offers {f : Mailbox → Mailbox}
      (keeps : ∀ box, (f box).frames = box.frames ∧ (f box).receiverGone = box.receiverGone) :
      Goes t ms ((t.offerAll ms).mapBox f)
  | drains {f : Mailbox → Mailbox} (none : ms = [])
      (fewer : ∀ box, (f box).frames <:+ box.frames)
      (closed : ∀ box : Mailbox, box.receiverGone = true → (f box).receiverGone = true) :
      Goes t ms (t.mapBox f)

theorem mapBox_id (t : Transport) : t.mapBox id = t := by
  cases t <;> rfl

theorem goes_offerAll (t : Transport) (ms : List Message) : t.Goes ms (t.offerAll ms) := by
  have kept : t.Goes ms ((t.offerAll ms).mapBox id) := .offers fun _ => ⟨rfl, rfl⟩
  rwa [mapBox_id] at kept

theorem Goes.of_eq {t t' : Transport} (same : t' = t) : t.Goes [] t' :=
  same ▸ t.goes_offerAll []

/-- A queue stays a queue. What was put into it is what it accepted. -/
theorem Goes.queue {codec : Codec} {limit : Option Nat} {box : Mailbox} {ms : List Message}
    {t' : Transport} (goes : (Transport.queue codec limit box).Goes ms t') :
    ∃ box', t' = .queue codec limit box' ∧
      (box.receiverGone = true → box'.receiverGone = true) ∧
      box'.frames.drop box.frames.length =
        ms.flatMap (Transport.queue codec limit box).accepts := by
  cases goes with
  | @offers f keeps =>
    rw [offerAll_queue]
    refine ⟨_, rfl, fun gone => (keeps _).2.trans gone, ?_⟩
    rw [(keeps _).1, List.drop_left]
  | @drains f none fewer closed =>
    subst none
    refine ⟨_, rfl, closed box, ?_⟩
    rw [List.drop_eq_nil_of_le (fewer box).length_le, List.flatMap_nil]

end Transport

/-- The messages that the end of a task makes its endpoint offer. -/
def Role.posts (ending : Ending) : Role → List Message
  | .handler origin => origin.answer ending
  | .caller => []

/-- Messages were offered, and all tasks went on but the one that ended. -/
structure Node.Serves (n : Node) (ms : List Message) (ended : Option Nat) (n' : Node) : Prop where
  transport : n.endpoint.transport.Goes ms n'.endpoint.transport
  tasks : ∀ t ∈ n.tasks, ended ≠ some t.serial → ∃ t' ∈ n'.tasks, t.Continues t'

/-- No response was offered, and all tasks went on. -/
def Node.Quietly (n n' : Node) : Prop :=
  ∃ ms : List Message, (∀ m ∈ ms, m.response? = none) ∧ n.Serves ms none n'

namespace Node

variable {n n' : Node} {ms : List Message}

theorem quietly_of_goes (goes : n.endpoint.transport.Goes [] n'.endpoint.transport)
    (tasks : n'.tasks = n.tasks) : n.Quietly n' :=
  ⟨[], fun _ hm => absurd hm List.not_mem_nil, goes, fun t ht _ => ⟨t, tasks ▸ ht, .refl t⟩⟩

theorem quietly_of_eq (transport : n'.endpoint.transport = n.endpoint.transport)
    (tasks : n'.tasks = n.tasks) : n.Quietly n' :=
  quietly_of_goes (.of_eq transport) tasks

theorem Quietly.refl (n : Node) : n.Quietly n :=
  quietly_of_eq rfl rfl

/-- The endpoint asks something of others, and the tasks go on. -/
theorem quietly_of_asks {f : Task → Task} (asks : n.endpoint.Asks n'.endpoint)
    (tasks : n'.tasks = n.tasks.map f) (continues : ∀ t ∈ n.tasks, t.Continues (f t)) :
    n.Quietly n' := by
  obtain ⟨ms, none, same⟩ := asks
  refine ⟨ms, none, same ▸ Transport.goes_offerAll _ ms, fun t ht _ => ⟨f t, ?_, continues t ht⟩⟩
  rw [tasks]
  exact List.mem_map_of_mem ht

theorem quietly_of_endpoint (asks : n.endpoint.Asks n'.endpoint) (tasks : n'.tasks = n.tasks) :
    n.Quietly n' :=
  quietly_of_asks (f := id) asks (tasks.trans (List.map_id _).symm) fun t _ => .refl t

/-- Who lets go of an endpoint offers nothing. -/
theorem transport_releaseFrom (n m : Node) : ∃ f : Mailbox → Mailbox,
    (n.releaseFrom m).endpoint.transport = m.endpoint.transport.mapBox f ∧
      (∀ box, (f box).frames = box.frames ∧ (f box).receiverGone = box.receiverGone) ∧
      (n.releaseFrom m).tasks = m.tasks := by
  unfold releaseFrom
  split
  · exact ⟨fun box => { box with senderGone := true }, rfl, fun _ => ⟨rfl, rfl⟩, rfl⟩
  · exact ⟨id, (Transport.mapBox_id _).symm, fun _ => ⟨rfl, rfl⟩, rfl⟩

/-- A task is taken away after messages were offered. -/
theorem serves_removeTask {m : Node} (offered : m.endpoint.transport = n.endpoint.transport.offerAll ms)
    (tasks : m.tasks = n.tasks) (serial : Nat) :
    n.Serves ms (some serial) (m.removeTask serial) := by
  obtain ⟨f, released, keeps, left⟩ :=
    m.transport_releaseFrom { m with tasks := m.tasks.filter (·.serial != serial) }
  refine ⟨?_, fun t ht other => ⟨t, ?_, .refl t⟩⟩
  · rw [removeTask, released, show m.endpoint.transport = _ from offered]
    exact .offers keeps
  · rw [removeTask, left, tasks]
    refine List.mem_filter.mpr ⟨ht, bne_iff_ne.mpr fun same => other ?_⟩
    rw [same]

end Node

namespace Network

variable {net net' : Network}

theorem a_of_node? (same : net'.node? .a = net.node? .a) : net'.a = net.a :=
  Option.some.inj same

/-! ### Loops -/

theorem a_mapPipeFrom (side : Side) (f : Pipe → Pipe) : (net.mapPipeFrom side f).a = net.a :=
  a_of_node? (node?_mapPipeFrom f .a)

theorem a_endWriting : (net.endWriting .a).a = net.a.endWriting :=
  a_of_node? (node?_detach .a)

theorem a_endReading : (net.endReading .a).a = net.a.endReading :=
  a_of_node? (node?_detach .a)

theorem quietly_endWriting : net.a.Quietly net.a.endWriting := by
  refine Node.quietly_of_goes ?_ rfl
  exact .drains rfl (fun box => List.nil_suffix) fun _ _ => rfl

theorem quietly_stepWriting (w : FrameWriter) (heeds : Bool) :
    net.a.Quietly (net.stepWriting .a net.a w heeds).a := by
  have ended (net' : Network) (same : net'.a = net.a) : net.a.Quietly (net'.endWriting .a).a := by
    rw [a_endWriting, same]
    exact quietly_endWriting
  have failed (net' : Network) (same : net'.a = net.a) (e : RpcError) :
      net.a.Quietly (net'.failWriting .a e).a := by
    rw [failWriting, a_endWriting]
    show net.a.Quietly (net'.a.note (.writingFailed e)).endWriting
    rw [same]
    refine Node.quietly_of_goes ?_ rfl
    exact .drains rfl (fun box => List.nil_suffix) fun _ _ => rfl
  unfold stepWriting
  split
  · exact ended net rfl
  · split
    · simp only
      split
      · split
        · exact ended _ (a_mapPipeFrom .a _)
        · exact .refl net.a
      · refine Node.quietly_of_goes ?_ rfl
        exact .drains rfl (fun box => List.drop_suffix _ _) fun _ gone => gone
    · split
      · exact .refl net.a
      · split
        · exact .refl net.a
        · exact failed net rfl _
        · rename_i count pipe _
          have same : (net.mapPipeFrom .a fun _ => pipe).a = net.a := a_mapPipeFrom .a _
          have wrote (w : FrameWriter) : net.a.Quietly
              ((net.mapPipeFrom .a fun _ => pipe).mapNode .a fun n => { n with writer := some w }).a := by
            show net.a.Quietly { (net.mapPipeFrom .a fun _ => pipe).a with writer := some w }
            rw [same]
            exact Node.quietly_of_eq rfl rfl
          unfold afterWrite
          split
          · exact failed _ same _
          · split
            · exact failed _ same _
            · exact wrote _
          · exact wrote _

theorem quietly_stepReading (r : FrameReader) (before : Nat) (heeds : Bool) :
    net.a.Quietly (net.stepReading .a net.a r before heeds).a := by
  have finished (net' : Network) (same : net'.a.endpoint.transport = net.a.endpoint.transport ∧
      net'.a.tasks = net.a.tasks) (ending : Except RpcError Unit) :
      net.a.Quietly (net'.finishReading .a ending).a := by
    unfold finishReading
    rw [a_endReading]
    exact Node.quietly_of_eq same.1 same.2
  unfold stepReading
  split
  · rw [a_endReading]
    exact Node.quietly_of_eq rfl rfl
  · split
    · exact .refl net.a
    · split
      · exact .refl net.a
      · exact finished net ⟨rfl, rfl⟩ _
      · rename_i piece pipe _
        have same : (net.mapPipeFrom (Side.other .a) fun _ => pipe).a = net.a := a_mapPipeFrom _ _
        have received (frames : List Frame) :
            ((net.mapPipeFrom (Side.other .a) fun _ => pipe).a.receiveFrames frames).endpoint.transport =
              net.a.endpoint.transport ∧
            ((net.mapPipeFrom (Side.other .a) fun _ => pipe).a.receiveFrames frames).tasks = net.a.tasks := by
          rw [same]
          unfold Node.receiveFrames
          split <;> exact ⟨rfl, rfl⟩
        unfold afterRead
        split
        · exact finished _ (by rw [same]; exact ⟨rfl, rfl⟩) _
        · simp only
          split
          · exact finished _ (by rw [same]; exact ⟨rfl, rfl⟩) _
          · split
            · exact finished _ (received _) _
            · exact Node.quietly_of_eq (received _).1 (received _).2

theorem a_mapInbox (f : Mailbox → Mailbox) :
    (net.mapInbox .a f).a.endpoint = net.a.endpoint ∧ (net.mapInbox .a f).a.tasks = net.a.tasks := by
  unfold mapInbox
  split <;> exact ⟨rfl, rfl⟩

theorem quietly_endReceiving (same : net'.a.endpoint.transport = net.a.endpoint.transport)
    (tasks : net'.a.tasks = net.a.tasks) : net.a.Quietly (net'.endReceiving .a).a := by
  obtain ⟨endpoint, left⟩ := (net'.mapNode .a Node.endReceiving).a_mapInbox Mailbox.close
  refine Node.quietly_of_eq ?_ (left.trans tasks)
  exact (congrArg Endpoint.transport endpoint).trans same

theorem a_atEndpoint (f : Endpoint → Endpoint × List Job) : (net.atEndpoint .a f).a = { net.a with
    endpoint := (f net.a.endpoint).1
    tasks := net.a.tasks ++ Task.ofJobs net.nextSerial (f net.a.endpoint).2 } := by
  show ((net.mapNode .a fun n => { n with endpoint := (f net.a.endpoint).1 }).spawnJobs .a
    (f net.a.endpoint).2).a = _
  rw [spawnJobs_a]
  rfl

/-- The endpoint handles something, in return for which it offers messages at once. -/
theorem serves_atEndpoint {f : Endpoint → Endpoint × List Job} {ms : List Message}
    (offers : (f net.a.endpoint).1.transport = net.a.endpoint.transport.offerAll ms) :
    net.a.Serves ms none (net.atEndpoint .a f).a := by
  rw [a_atEndpoint]
  refine ⟨offers ▸ Transport.goes_offerAll _ ms, fun t ht _ => ⟨t, ?_, .refl t⟩⟩
  exact List.mem_append_left _ ht

/-! ### Tasks -/

theorem quietly_openGate (ticket : Nat) (opening : Opening) :
    net.a.Quietly (net.openGate ticket opening).a :=
  Node.quietly_of_asks (f := (·.open_ ticket opening)) (Endpoint.asks_of_transport rfl) rfl
    fun t _ => t.continues_open ticket opening

theorem quietly_spawn (role : Role) (script : Script) : net.a.Quietly (net.spawn .a role script).a :=
  ⟨[], fun _ hm => absurd hm List.not_mem_nil, .of_eq rfl,
    fun t ht _ => ⟨t, List.mem_append_left _ ht, .refl t⟩⟩

theorem quietly_stepTask (alone : net.b = none) (apart : (net.a.tasks.map Task.serial).Nodup) {t : Task}
    (mem : t ∈ net.a.tasks) (going : t.ending? = none) :
    net.a.Quietly (net.stepTask .a net.a t).a := by
  obtain ⟨f, e, continues, asks, same, -⟩ := net.stepTask_eq alone apart mem going
  rw [same]
  exact Node.quietly_of_asks asks rfl continues

/-- A task ends, and with it the handler of a request, if it ran one. -/
theorem serves_endTask (t : Task) (ending : Ending) :
    net.a.Serves (t.role.posts ending) (some t.serial) (net.endTask .a t ending).a := by
  unfold endTask
  cases t.role with
  | handler origin =>
    exact Node.serves_removeTask (m := net.a.mapEndpoint (·.finish origin ending))
      (net.a.endpoint.transport_finish origin ending) rfl t.serial
  | caller => exact Node.serves_removeTask (m := net.a) rfl rfl t.serial

theorem tasks_endTask (t : Task) (ending : Ending) :
    (net.endTask .a t ending).a.tasks = net.a.tasks.filter (·.serial != t.serial) := by
  have left (n m : Node) : (n.releaseFrom m).tasks = m.tasks := by
    obtain ⟨-, -, -, left⟩ := n.transport_releaseFrom m
    exact left
  unfold endTask
  cases t.role with
  | handler origin => exact left _ _
  | caller => exact left _ _

theorem quietly_timer (ticket : Nat) : net.a.Quietly (net.step (.timer .a ticket)).a := by
  simp only [step, node?]
  split
  · rename_i t _
    exact Node.quietly_of_eq (Endpoint.transport_expire t) rfl
  · exact .refl net.a

end Network

namespace Scene

variable {s : Scene} {ev : Incident}

/-- The messages that the first endpoint offers in return for what it handles in an incident, or since
the handler of a request ends. -/
def answers (s : Scene) : Incident → List Message
  | .go (.receiving .a heeds) =>
    ((s.handles? .a (.go (.receiving .a heeds))).map fun x => x.2.retorts x.1).getD []
  | .go (.task .a serial) =>
    ((s.net.a.tasks.find? (·.serial == serial)).bind fun t =>
      t.ending?.map fun ending => t.role.posts ending).getD []
  | .ask .a (.frame bytes) => if s.net.a.isHeld then s.net.a.endpoint.retorts bytes else []
  | .ask .a (.handle message) =>
    if s.net.a.isHeld then
      match Message.ofValue message with
      | .ok m => m.replies s.net.a.endpoint.registry.requests
      | .error _ => []
    else []
  | _ => []

/-- The frames that are handed to the loop that writes. -/
def hands (s : Scene) (ev : Incident) : List Frame :=
  (s.step ev).net.a.endpoint.transport.box.frames.drop s.net.a.endpoint.transport.box.frames.length

/-- What an incident does to a lone endpoint: it offers its answers, or no response, and its tasks go
on but for one that ends or is given up. -/
structure Responds (s : Scene) (ev : Incident) (ms : List Message) (ended : Option Nat) : Prop where
  serves : s.net.a.Serves ms ended (s.step ev).net.a
  offered : ms = s.answers ev ∨ s.answers ev = [] ∧ ∀ m ∈ ms, m.response? = none
  left : ∀ serial, ended = some serial → ev = .abort .a serial ∨ ev = .go (.task .a serial)

theorem responds_of_quietly (quietly : s.net.a.Quietly (s.step ev).net.a)
    (none : s.answers ev = []) : ∃ ms ended, s.Responds ev ms ended := by
  obtain ⟨ms, calls, serves⟩ := quietly
  exact ⟨ms, Option.none, serves, .inr ⟨none, calls⟩, fun _ same => by cases same⟩

theorem responds_of_serves {ms : List Message} (offered : ms = s.answers ev)
    (serves : s.net.a.Serves ms none (s.step ev).net.a) : ∃ ms ended, s.Responds ev ms ended :=
  ⟨ms, none, serves, .inl offered, fun _ same => by cases same⟩

/-- What happens at a side that is not there changes nothing, and nothing is answered. -/
theorem a_step_absent (alone : s.net.b = none) (there : ev.side? = some .b) :
    (s.step ev).net.a = s.net.a ∧ s.answers ev = [] := by
  have missing : s.net.node? .b = none := alone
  have nobody : s.holder? .b = none := by rw [holder?, missing]; rfl
  cases ev with
  | go agent =>
    have absent : s.net.step agent = s.net := by
      cases agent with
      | sentinel _ | receiving _ _ | writing _ _ | reading _ _ | task _ _ | timer _ _ =>
        obtain rfl := Option.some.inj there
        simp only [Network.step, missing]
    refine ⟨congrArg Network.a absent, ?_⟩
    cases agent with
    | receiving _ _ | task _ _ =>
      obtain rfl := Option.some.inj there
      rfl
    | _ => rfl
  | launch _ _ | run _ _ =>
    obtain rfl := Option.some.inj there
    simp only [step, nobody]
    exact ⟨trivial, rfl⟩
  | ask _ what =>
    obtain rfl := Option.some.inj there
    simp only [step, nobody]
    cases what <;> exact ⟨trivial, rfl⟩
  | poll _ _ =>
    obtain rfl := Option.some.inj there
    simp only [step, missing]
    exact ⟨trivial, rfl⟩
  | drop _ _ =>
    obtain rfl := Option.some.inj there
    simp only [step]
    split <;> exact ⟨rfl, rfl⟩
  | abort _ _ =>
    obtain rfl := Option.some.inj there
    exact ⟨rfl, rfl⟩
  | cancel _ _ =>
    obtain rfl := Option.some.inj there
    simp only [step, Network.cancel, missing]
    exact ⟨trivial, rfl⟩
  | openGate _ _ | pass _ | far _ => cases there

theorem responds_task (alone : s.net.b = none) (apart : (s.net.a.tasks.map Task.serial).Nodup)
    (serial : Nat) : ∃ ms ended, s.Responds (.go (.task .a serial)) ms ended := by
  cases found : s.net.a.tasks.find? (·.serial == serial) with
  | none =>
    refine responds_of_quietly ?_ ?_
    · simp only [step, Network.step, Network.node?, found]
      exact .refl _
    · simp only [answers, found, Option.bind_none, Option.getD_none]
  | some t =>
    have mem : t ∈ s.net.a.tasks := List.mem_of_find?_eq_some found
    have same : t.serial = serial := by simpa using List.find?_some found
    have next : (s.step (.go (.task .a serial))).net = s.net.stepTask .a s.net.a t := by
      simp only [step, Network.step, Network.node?, found]
    cases ends : t.ending? with
    | none =>
      refine responds_of_quietly ?_ ?_
      · rw [next]
        exact Network.quietly_stepTask alone apart mem ends
      · simp only [answers, found, Option.bind_some, ends, Option.map_none, Option.getD_none]
    | some ending =>
      refine ⟨t.role.posts ending, some serial, ?_, .inl ?_, fun k there => .inr ?_⟩
      · rw [next, s.net.stepTask_of_ending .a s.net.a ends, ← same]
        exact Network.serves_endTask t ending
      · simp only [answers, found, Option.bind_some, ends, Option.map_some, Option.getD_some]
      · rw [Option.some.inj there]

theorem quietly_receiving (heeds : Bool)
    (untaken : s.handles? .a (.go (.receiving .a heeds)) = none) :
    s.net.a.Quietly (s.step (.go (.receiving .a heeds))).net.a := by
  have here : s.net.node? .a = some s.net.a := rfl
  cases running : s.net.a.receiving with
  | false =>
    simp only [step, Network.step, here, running, Bool.false_eq_true, if_false]
    exact .refl _
  | true =>
    rw [step_receiving here running, Network.stepReceiving]
    split
    · exact Network.quietly_endReceiving rfl rfl
    · rename_i goesOn
      simp only
      split
      · rename_i frame rest frames
        split
        · rename_i holding
          rw [Bool.not_eq_true] at goesOn
          simp [handles?, here, running, holding, goesOn, frames, Option.filter] at untaken
        · obtain ⟨endpoint, tasks⟩ := s.net.a_mapInbox .pop
          have same : (s.net.mapInbox .a .pop).a.endpoint.transport = s.net.a.endpoint.transport :=
            congrArg Endpoint.transport endpoint
          exact Network.quietly_endReceiving same tasks
      · split
        · exact Network.quietly_endReceiving rfl rfl
        · exact .refl _

theorem responds_receiving (heeds : Bool) :
    ∃ ms ended, s.Responds (.go (.receiving .a heeds)) ms ended := by
  cases taken : s.handles? .a (.go (.receiving .a heeds)) with
  | some x =>
    obtain ⟨frame, e⟩ := x
    obtain ⟨n, rest, here, rfl, -, -, next⟩ := step_of_handles taken
    obtain rfl : s.net.a = n := Option.some.inj here
    obtain ⟨endpoint, tasks⟩ := s.net.a_mapInbox .pop
    have handled : (s.net.mapInbox .a .pop).a.Serves (s.net.a.endpoint.retorts frame) none
        ((s.net.mapInbox .a .pop).atEndpoint .a (·.handleFrame frame)).a := by
      refine Network.serves_atEndpoint ?_
      rw [endpoint]
      exact s.net.a.endpoint.transport_handleFrame frame
    have offered : s.net.a.endpoint.retorts frame = s.answers (.go (.receiving .a heeds)) := by
      simp only [answers, taken, Option.map_some, Option.getD_some]
    refine responds_of_serves offered ?_
    rw [next]
    exact ⟨endpoint ▸ handled.transport, tasks ▸ handled.tasks⟩
  | none =>
    refine responds_of_quietly (quietly_receiving heeds taken) ?_
    simp only [answers, taken, Option.map_none, Option.getD_none]

theorem responds_go (alone : s.net.b = none) (apart : (s.net.a.tasks.map Task.serial).Nodup)
    (agent : Agent) (here : agent.side = .a) : ∃ ms ended, s.Responds (.go agent) ms ended := by
  cases agent with
  | sentinel _ =>
    obtain rfl := here
    refine responds_of_quietly ?_ rfl
    simp only [step, Network.step, Network.node?]
    split
    · exact Node.quietly_of_eq rfl rfl
    · exact .refl _
  | receiving _ heeds =>
    obtain rfl := here
    exact responds_receiving heeds
  | writing _ heeds =>
    obtain rfl := here
    refine responds_of_quietly ?_ rfl
    simp only [step, Network.step, Network.node?]
    split
    · exact Network.quietly_stepWriting _ heeds
    · exact .refl _
  | reading _ heeds =>
    obtain rfl := here
    refine responds_of_quietly ?_ rfl
    simp only [step, Network.step, Network.node?]
    split
    · exact Network.quietly_stepReading _ _ heeds
    · exact .refl _
  | task _ serial =>
    obtain rfl := here
    exact responds_task alone apart serial
  | timer _ ticket =>
    obtain rfl := here
    exact responds_of_quietly (Network.quietly_timer ticket) rfl

theorem holder?_a (s : Scene) : s.holder? .a = if s.net.a.isHeld then some s.net.a else none := by
  cases holding : s.net.a.isHeld <;> simp [holder?, Network.node?, Option.filter, holding]

/-- Nobody else can be asked. -/
theorem responds_unheld (gone : s.net.a.isHeld = false) (what : Session.Ask) :
    ∃ ms ended, s.Responds (.ask .a what) ms ended := by
  refine responds_of_quietly ?_ ?_
  · simp only [step, holder?_a, gone, Bool.false_eq_true, if_false]
    exact .refl _
  · cases what <;> simp [answers, gone]

theorem responds_ask (kept : ∀ failure, s.net.a.endpoint.transport.failWith failure =
    s.net.a.endpoint.transport) (what : Session.Ask) :
    ∃ ms ended, s.Responds (.ask .a what) ms ended := by
  cases holding : s.net.a.isHeld with
  | false => exact responds_unheld holding what
  | true =>
    have next : (s.step (.ask .a what)).net = (Session.askNode s.net .a s.net.a what).2 := by
      simp only [step, holder?_a, holding, if_true]
    have consulted : s.net.a.Quietly
        { s.net.a with endpoint := (Session.consult s.net.a.endpoint what).2 } :=
      Node.quietly_of_endpoint
        (Session.asks_consult s.net.a.endpoint fun failure _ => kept failure) rfl
    cases what with
    | frame bytes =>
      have offered : s.net.a.endpoint.retorts bytes = s.answers (.ask .a (.frame bytes)) := by
        simp only [answers, holding, if_true]
      refine responds_of_serves offered ?_
      rw [next]
      exact Network.serves_atEndpoint (s.net.a.endpoint.transport_handleFrame bytes)
    | handle message =>
      cases read : Message.ofValue message with
      | ok m =>
        have offered : m.replies s.net.a.endpoint.registry.requests =
            s.answers (.ask .a (.handle message)) := by
          simp only [answers, holding, if_true, read]
        refine responds_of_serves offered ?_
        simp only [next, Session.askNode, read]
        exact Network.serves_atEndpoint (s.net.a.endpoint.transport_handle m)
      | error err =>
        refine responds_of_quietly ?_ ?_
        · simp only [next, Session.askNode, read]
          exact .refl _
        · simp only [answers, holding, if_true, read]
    | letGo =>
      refine responds_of_quietly ?_ rfl
      obtain ⟨f, released, keeps, left⟩ :=
        s.net.a.transport_releaseFrom { s.net.a with held := false }
      rw [next]
      refine Node.quietly_of_goes ?_ left
      have goes : s.net.a.endpoint.transport.Goes []
          ((s.net.a.endpoint.transport.offerAll []).mapBox f) := .offers keeps
      exact released ▸ goes
    | _ =>
      refine responds_of_quietly ?_ rfl
      rw [next]
      exact consulted

theorem responds_abort (serial : Nat) : ∃ ms ended, s.Responds (.abort .a serial) ms ended := by
  refine ⟨[], some serial, ?_, .inl rfl, fun k same => .inl (by rw [Option.some.inj same])⟩
  show s.net.a.Serves [] (some serial) (s.net.abort .a serial).a
  unfold Network.abort
  refine Node.serves_removeTask ?_ ?_ serial
  · simp only
    split
    · exact Endpoint.transport_drop _
    · rfl
  · simp only
    split <;> rfl

theorem quietly_actFar (act : FarAct) : s.net.a.Quietly (s.net.actFar act).a := by
  have same : (s.net.actFar act).a = s.net.a := by
    unfold Network.actFar
    split
    · rfl
    · cases act with
      | close => exact (Network.a_mapPipeFrom .a _).trans (Network.a_mapPipeFrom .b _)
      | write _ | shutdown | drain => exact Network.a_mapPipeFrom _ _
  rw [same]
  exact .refl _

theorem responds_step (alone : s.net.b = none) (apart : (s.net.a.tasks.map Task.serial).Nodup)
    (kept : ∀ failure, s.net.a.endpoint.transport.failWith failure = s.net.a.endpoint.transport)
    (ev : Incident) : ∃ ms ended, s.Responds ev ms ended := by
  cases there : ev.side? with
  | none =>
    cases ev with
    | openGate ticket opening =>
      exact responds_of_quietly (Network.quietly_openGate ticket opening) rfl
    | pass span => exact responds_of_quietly (.refl _) rfl
    | far act => exact responds_of_quietly (quietly_actFar act) rfl
    | _ => cases there
  | some side =>
    cases side with
    | b =>
      obtain ⟨same, none⟩ := a_step_absent alone there
      exact responds_of_quietly (same ▸ .refl _) none
    | a =>
      cases ev with
      | go agent => exact responds_go alone apart agent (Option.some.inj there)
      | launch _ what =>
        obtain rfl := Option.some.inj there
        refine responds_of_quietly ?_ rfl
        simp only [step]
        split
        · rename_i n found
          obtain rfl : s.net.a = n := Option.some.inj (holder?_eq_some found).1
          exact Node.quietly_of_endpoint (s.net.a.endpoint.asks_launch s.net.clock what) rfl
        · exact .refl _
      | run _ script =>
        obtain rfl := Option.some.inj there
        refine responds_of_quietly ?_ rfl
        simp only [step]
        split
        · exact Network.quietly_spawn .caller script
        · exact .refl _
      | ask _ what =>
        obtain rfl := Option.some.inj there
        exact responds_ask kept what
      | poll _ ticket =>
        obtain rfl := Option.some.inj there
        refine responds_of_quietly ?_ rfl
        simp only [step]
        split
        · rename_i n id here found
          obtain rfl : s.net.a = n := Option.some.inj here
          split
          · rename_i outcome call e polled
            have same := s.net.a.endpoint.transport_poll (.waiting id ticket)
            rw [polled] at same
            exact Node.quietly_of_eq same rfl
          · exact .refl _
        · exact .refl _
      | drop _ ticket =>
        obtain rfl := Option.some.inj there
        refine responds_of_quietly ?_ rfl
        simp only [step]
        split
        · rename_i id found
          exact Node.quietly_of_eq (s.net.a.endpoint.transport_drop (.waiting id ticket)) rfl
        · exact .refl _
      | abort _ serial =>
        obtain rfl := Option.some.inj there
        exact responds_abort serial
      | cancel _ loop =>
        obtain rfl := Option.some.inj there
        refine responds_of_quietly ?_ rfl
        simp only [step, Network.cancel, Network.node?]
        cases loop with
        | receiving =>
          simp only
          split
          · exact Network.quietly_endReceiving rfl rfl
          · exact .refl _
        | writing =>
          simp only
          split
          · rw [Network.a_endWriting]
            exact Network.quietly_endWriting
          · exact .refl _
        | reading =>
          simp only
          split
          · rw [Network.a_endReading]
            exact Node.quietly_of_eq rfl rfl
          · exact .refl _
      | openGate _ _ | pass _ | far _ => cases there

end Scene

end DuplexRpc

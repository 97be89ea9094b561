import DuplexRpc.Proofs.Endpoint.Answers
import DuplexRpc.Proofs.Handler.Leads
import DuplexRpc.Proofs.Network.Tasks
import DuplexRpc.Session.Perform

/-! A lone endpoint that keeps what it posts. `Responds` is all that one event can do to it: it posts
a response where it refuses a request or where the handler of a request ends, and nowhere else. -/

namespace DuplexRpc

namespace Task

/-- The task went on: it still runs what it ran. -/
structure Continues (t t' : Task) : Prop where
  tag : t'.tag = t.tag
  stand : ∀ s, t.stand.From s → t'.stand.From s

variable {t t' t'' : Task} {tasks : List Task}

theorem Continues.refl (t : Task) : t.Continues t :=
  ⟨rfl, fun _ h => h⟩

theorem Continues.trans (h : t.Continues t') (h' : t'.Continues t'') : t.Continues t'' :=
  ⟨h'.tag.trans h.tag, fun s run => h'.stand s (h.stand s run)⟩

theorem Continues.serial (h : t.Continues t') : t'.serial = t.serial :=
  congrArg Prod.fst h.tag

theorem Continues.role (h : t.Continues t') : t'.role = t.role :=
  congrArg Prod.snd h.tag

theorem continues_open (t : Task) (ticket : Nat) (opening : Opening) :
    t.Continues (t.open_ ticket opening) := by
  unfold open_
  split
  · rename_i next atGate
    split
    · refine ⟨rfl, fun s run => ?_⟩
      rw [atGate] at run
      exact run opening
    · exact .refl t
  · exact .refl t

/-- One task of a list stands elsewhere, where it still runs what it ran. -/
theorem continues_setStand (apart : (tasks.map serial).Nodup) (mem : t ∈ tasks) {stand : Stand}
    (run : ∀ s, t.stand.From s → stand.From s) :
    ∀ u ∈ tasks, u.Continues (if u.serial = t.serial then { u with stand } else u) := by
  intro u hu
  split
  · rename_i same
    obtain rfl := eq_of_serial apart hu mem same
    exact ⟨rfl, run⟩
  · exact .refl u

end Task

/-- The responses that the end of a task makes its endpoint post. -/
def Role.answers (ending : Ending) : Role → List Response
  | .handler origin => (origin.answer ending).filterMap Message.response?
  | .caller => []

theorem Role.answers_eq_nil {role : Role} {ending : Ending} (h : role.requestId? = none) :
    role.answers ending = [] := by
  rcases role with (⟨id, method⟩ | method) | _
  · cases h
  · rfl
  · rfl

theorem Role.id_answers (role : Role) (ending : Ending) :
    (role.answers ending).map Response.id = role.requestId?.toList := by
  rcases role with (⟨id, method⟩ | method) | _ <;> rfl

namespace Node

/-- No frames come in or leave by the background loops. -/
def Idle (n : Node) : Prop :=
  n.receiving = false ∧ n.writer = none ∧ n.reader = none

/-- An endpoint that keeps what it posts goes on keeping it once nobody holds it. -/
theorem releaseFrom_eq (n : Node) {m : Node} (keeps : m.endpoint.transport.Keeps) :
    ∃ e, n.releaseFrom m = { m with endpoint := e } ∧ e.transport = m.endpoint.transport := by
  unfold releaseFrom
  split
  · exact ⟨m.endpoint.release, rfl, Transport.mapBox_of_keeps keeps _⟩
  · exact ⟨m.endpoint, rfl, rfl⟩

end Node

namespace Session

theorem transport_pop (e : Endpoint) (id : Id) (outcome : Option Outcome) :
    (pop e id outcome).2.transport = e.transport := by
  unfold pop
  split
  · rfl
  · split <;> rfl

theorem transport_resolve (e : Endpoint) (message : Value) :
    (resolve e message).2.transport = e.transport := by
  unfold resolve
  split
  · rfl
  · rename_i r _
    unfold Endpoint.resolveResponse
    cases e.pool.resolve r with
    | mk found pool => cases found <;> rfl
  · rfl

/-- Nothing that is asked of an endpoint makes it answer a request. -/
theorem asks_consult (e : Endpoint) {what : Ask}
    (accepting : ∀ failure, what = .failPosts failure → e.transport.failWith failure = e.transport) :
    e.Asks (consult e what).2 := by
  cases what with
  | notify launch => exact e.asks_announce launch
  | pop id outcome => exact Endpoint.asks_of_transport (transport_pop e id outcome)
  | resolve message => exact Endpoint.asks_of_transport (transport_resolve e message)
  | failPosts failure => exact Endpoint.asks_of_transport (accepting failure rfl)
  | _ => exact Endpoint.asks_of_transport rfl

end Session

namespace Network

/-- What may happen to a lone endpoint: a message comes in, a task or a timer or a caller acts, or the
owner asks something of the endpoint, but not that posting shall fail. -/
inductive Event where
  | message (m : Message)
  | act (what : Act)
  | ask (what : Session.Ask) (accepting : ∀ failure, what ≠ .failPosts failure)
  | letGo

def event (net : Network) : Event → Network
  | .message m => net.atEndpoint .a (·.handle m)
  | .act what => net.act what
  | .ask what _ => net.mapNode .a fun n => { n with endpoint := (Session.consult n.endpoint what).2 }
  | .letGo => net.mapNode .a Node.letGo

/-- The request that comes in. -/
def Event.request? : Event → Option Request
  | .message m => m.request?
  | _ => none

/-- The responses that the endpoint posted so far. -/
def responses (net : Network) : List Response :=
  net.a.endpoint.transport.responses

/-- One node whose endpoint keeps what it posts, and whose tasks have different serial numbers. -/
structure Lone (net : Network) : Prop where
  alone : net.b = none
  idle : net.a.Idle
  keeps : net.a.endpoint.transport.Keeps
  below : ∀ t ∈ net.a.tasks, t.serial < net.nextSerial
  apart : (net.a.tasks.map Task.serial).Nodup

/-- The endpoint posts the responses `answers` and no others, the tasks `kept` go on, and the tasks
`new` start. -/
structure Shifts (net : Network) (answers : List Response) (kept new : List Task) (net' : Network) :
    Prop where
  alone : net'.b = none
  idle : net'.a.Idle
  answers : net.a.endpoint.Answers answers net'.a.endpoint
  sub : kept.Sublist net.a.tasks
  tasks : ∃ f : Task → Task, (∀ t ∈ kept, t.Continues (f t)) ∧ net'.a.tasks = kept.map f ++ new
  serial : net.nextSerial ≤ net'.nextSerial
  fresh : ∀ t ∈ new, net.nextSerial ≤ t.serial ∧ t.serial < net'.nextSerial
  apart : (new.map Task.serial).Nodup

variable {net net' : Network} {answers : List Response} {kept new : List Task}

theorem Shifts.lone (shifts : net.Shifts answers kept new net') (lone : net.Lone) : net'.Lone := by
  obtain ⟨f, continues, tasks⟩ := shifts.tasks
  have serials : (kept.map f).map Task.serial = kept.map Task.serial := by
    rw [List.map_map]
    exact List.map_congr_left fun t ht => (continues t ht).serial
  have old : ∀ n ∈ kept.map Task.serial, n < net.nextSerial := by
    intro n hn
    obtain ⟨t, ht, rfl⟩ := List.mem_map.mp hn
    exact lone.below t (shifts.sub.subset ht)
  refine ⟨shifts.alone, shifts.idle, (shifts.answers lone.keeps).1, ?_, ?_⟩
  · intro t ht
    rw [tasks, List.mem_append] at ht
    rcases ht with ht | ht
    · have mem := List.mem_map_of_mem (f := Task.serial) ht
      rw [serials] at mem
      exact Nat.lt_of_lt_of_le (old _ mem) shifts.serial
    · exact (shifts.fresh t ht).2
  · rw [tasks, List.map_append, serials, List.nodup_append]
    refine ⟨lone.apart.sublist (shifts.sub.map _), shifts.apart, ?_⟩
    intro n hn k hk same
    obtain ⟨t, ht, rfl⟩ := List.mem_map.mp hk
    have high := (shifts.fresh t ht).1
    have low := old n hn
    omega

theorem spawnJobs_a (net : Network) (jobs : List Job) :
    net.spawnJobs .a jobs = { net with
      a := { net.a with tasks := net.a.tasks ++ Task.ofJobs net.nextSerial jobs }
      nextSerial := net.nextSerial + jobs.length } := by
  induction jobs generalizing net with
  | nil =>
    simp only [spawnJobs, List.foldl_nil, Task.ofJobs, List.append_nil]
    rfl
  | cons job jobs ih =>
    have next : net.nextSerial + 1 + jobs.length = net.nextSerial + (jobs.length + 1) := by omega
    refine (ih (net.spawn .a (.handler job.origin) job.script)).trans ?_
    simp only [spawn, mapNode, Task.ofJobs, List.length_cons, List.append_assoc,
      List.singleton_append, next]

theorem requestId?_notificationJobs {e : Endpoint} {n : Notification} {serial : Nat} :
    ∀ t ∈ Task.ofJobs serial (e.notificationJobs n), t.role.requestId? = none := by
  intro t ht
  obtain ⟨-, -, job, mem, role⟩ := Task.mem_ofJobs ht
  rw [role, Endpoint.origin_notificationJobs mem]
  rfl

/-- What an event does to a lone endpoint. -/
inductive Responds (net : Network) : Event → Network → Prop where
  /-- Nothing is answered, and no handler of a request starts or ends. -/
  | quietly {ev : Event} {new : List Task} {net' : Network} (other : ev.request? = none)
      (others : ∀ t ∈ new, t.role.requestId? = none)
      (shifts : net.Shifts [] net.a.tasks new net') : Responds net ev net'
  | ends {t : Task} {ending : Ending} {net' : Network} (mem : t ∈ net.a.tasks)
      (ending? : t.ending? = some ending)
      (shifts : net.Shifts (t.role.answers ending)
        (net.a.tasks.filter (·.serial != t.serial)) [] net') :
      Responds net (.act (.go (.task .a t.serial))) net'
  | refuses {r : Request} {err : RpcError} {new : List Task} {net' : Network}
      (refused : r.refusal? net.a.endpoint.registry.requests = some err)
      (others : ∀ t ∈ new, t.role.requestId? = none)
      (shifts : net.Shifts [⟨r.id, .error err⟩] net.a.tasks new net') :
      Responds net (.message (.request r)) net'
  | starts {r : Request} {h : Handler} {serial : Nat} {new : List Task} {net' : Network}
      (accepted : r.refusal? net.a.endpoint.registry.requests = none)
      (found : net.a.endpoint.registry.requestHandler? r.method = some h)
      (others : ∀ t ∈ new, t.role.requestId? = none)
      (shifts : net.Shifts [] net.a.tasks
        (new ++ [⟨serial, .handler (.request r.id r.method), .going (r.job h).script⟩]) net') :
      Responds net (.message (.request r)) net'

theorem Responds.of_shifts {ev : Event} (other : ev.request? = none)
    (shifts : net.Shifts [] net.a.tasks [] net') : net.Responds ev net' :=
  .quietly other (fun _ ht => absurd ht List.not_mem_nil) shifts

/-! ### The endpoint after an event -/

theorem Shifts.responses (shifts : net.Shifts answers kept new net') (lone : net.Lone) :
    net'.responses = net.responses ++ answers :=
  (shifts.answers lone.keeps).2.2

theorem Shifts.drop_responses (shifts : net.Shifts answers kept new net') (lone : net.Lone) :
    net'.responses.drop net.responses.length = answers := by
  rw [shifts.responses lone, List.drop_left]

theorem Shifts.continues_or_new (shifts : net.Shifts answers kept new net') {t' : Task}
    (h : t' ∈ net'.a.tasks) : (∃ t ∈ kept, t.Continues t') ∨ t' ∈ new := by
  obtain ⟨f, continues, tasks⟩ := shifts.tasks
  rw [tasks, List.mem_append, List.mem_map] at h
  rcases h with ⟨t, ht, rfl⟩ | fresh
  · exact Or.inl ⟨t, ht, continues t ht⟩
  · exact Or.inr fresh

theorem Shifts.exists_continues (shifts : net.Shifts answers kept new net') {t : Task}
    (h : t ∈ kept) : ∃ t' ∈ net'.a.tasks, t.Continues t' := by
  obtain ⟨f, continues, tasks⟩ := shifts.tasks
  refine ⟨f t, ?_, continues t h⟩
  rw [tasks]
  exact List.mem_append_left new (List.mem_map_of_mem h)

theorem Shifts.mem_of_new (shifts : net.Shifts answers kept new net') {t : Task} (h : t ∈ new) :
    t ∈ net'.a.tasks := by
  obtain ⟨f, -, tasks⟩ := shifts.tasks
  rw [tasks]
  exact List.mem_append_right _ h

theorem Responds.exists_shifts {ev : Event} (responds : net.Responds ev net') :
    ∃ answers kept new, net.Shifts answers kept new net' := by
  cases responds with
  | quietly _ _ shifts | ends _ _ shifts | refuses _ _ shifts | starts _ _ _ shifts =>
    exact ⟨_, _, _, shifts⟩

theorem Shifts.tags (shifts : net.Shifts answers kept new net') :
    net'.a.tasks.map Task.tag = (kept ++ new).map Task.tag := by
  obtain ⟨f, continues, tasks⟩ := shifts.tasks
  rw [tasks, List.map_append, List.map_append, List.map_map]
  exact congrArg (· ++ _) (List.map_congr_left fun t ht => (continues t ht).tag)

theorem Shifts.requestIds (shifts : net.Shifts answers kept new net') :
    Task.requestIds net'.a.tasks = Task.requestIds kept ++ Task.requestIds new := by
  rw [Task.requestIds_of_tags shifts.tags, Task.requestIds_append]

/-- The tasks of a lone endpoint that did not run before. -/
theorem Shifts.freshFrom (shifts : net.Shifts answers net.a.tasks new net') (lone : net.Lone) :
    Task.freshFrom net.a.tasks net'.a.tasks = new := by
  obtain ⟨f, continues, tasks⟩ := shifts.tasks
  have old : Task.freshFrom net.a.tasks (net.a.tasks.map f) = [] := by
    refine Task.freshFrom_of_tags ?_
    rw [List.map_map]
    exact List.map_congr_left fun t ht => (continues t ht).tag
  have all : Task.freshFrom net.a.tasks new = new := by
    refine Task.freshFrom_eq_self fun t ht there => ?_
    obtain ⟨u, hu, same⟩ := List.mem_map.mp there
    have low := lone.below u hu
    have high := (shifts.fresh t ht).1
    omega
  rw [Task.freshFrom] at old all ⊢
  rw [tasks, List.filter_append, old, all, List.nil_append]

/-- Every request that came in was answered, or its handler is running. -/
theorem Responds.balance {ev : Event} (responds : net.Responds ev net') (lone : net.Lone) :
    (net'.responses.map Response.id ++ Task.requestIds net'.a.tasks).Perm
      (net.responses.map Response.id ++ Task.requestIds net.a.tasks ++
        ev.request?.toList.map Request.id) := by
  cases responds with
  | quietly other others shifts =>
    rw [shifts.responses lone, shifts.requestIds, Task.requestIds_eq_nil others, other]
    simp
  | ends mem ends shifts =>
    rename_i t ending
    have split : (Task.requestIds net.a.tasks).Perm
        (t.role.requestId?.toList ++
          Task.requestIds (net.a.tasks.filter (·.serial != t.serial))) := by
      have same := (Task.perm_filter mem lone.apart).1.filterMap (·.role.requestId?)
      refine same.trans (.of_eq ?_)
      cases role : t.role.requestId? <;> simp [role, Task.requestIds]
    rw [shifts.responses lone, shifts.requestIds, List.map_append, t.role.id_answers]
    simpa [Event.request?, Task.requestIds] using split.symm.append_left _
  | refuses refused others shifts =>
    rw [shifts.responses lone, shifts.requestIds, Task.requestIds_eq_nil others]
    simp only [List.map_append, List.map_cons, List.map_nil, List.append_nil, Event.request?,
      Message.request?, Option.toList_some, List.append_assoc]
    exact List.perm_append_comm.append_left _
  | starts accepted found others shifts =>
    rw [shifts.responses lone, shifts.requestIds, List.append_nil, Task.requestIds_append,
      Task.requestIds_eq_nil others, ← List.append_assoc]
    exact .refl _

/-! ### Events that answer nothing -/

theorem shifts_map {f : Task → Task} (tasks : net'.a.tasks = net.a.tasks.map f)
    (idle : net'.a.Idle) (b : net'.b = none)
    (answers : net.a.endpoint.Answers [] net'.a.endpoint)
    (continues : ∀ t ∈ net.a.tasks, t.Continues (f t))
    (serial : net.nextSerial ≤ net'.nextSerial) : net.Shifts [] net.a.tasks [] net' where
  alone := b
  idle := idle
  answers := answers
  sub := List.Sublist.refl _
  tasks := ⟨f, continues, by rw [tasks, List.append_nil]⟩
  serial := serial
  fresh _ ht := absurd ht List.not_mem_nil
  apart := List.nodup_nil

theorem shifts_same (tasks : net'.a.tasks = net.a.tasks) (idle : net'.a.Idle) (b : net'.b = none)
    (answers : net.a.endpoint.Answers [] net'.a.endpoint)
    (serial : net.nextSerial ≤ net'.nextSerial) : net.Shifts [] net.a.tasks [] net' := by
  refine shifts_map (f := id) ?_ idle b answers (fun t _ => .refl t) serial
  rw [tasks, List.map_id]

theorem stepTask_of_ending (net : Network) (side : Side) (n : Node) {t : Task} {ending : Ending}
    (ends : t.ending? = some ending) : net.stepTask side n t = net.endTask side t ending := by
  unfold Task.ending? at ends
  unfold stepTask
  split at ends
  · rename_i stand
    rw [stand, ← Option.some.inj ends]
    rfl
  · rename_i stand
    rw [stand, ← Option.some.inj ends]
    rfl
  · cases ends

/-- The tasks go on as one of them arrives at a gate. -/
theorem arriveAtGate_eq (alone : net.b = none) (apart : (net.a.tasks.map Task.serial).Nodup) {t : Task}
    (mem : t ∈ net.a.tasks) {gate : String} {next : Opening → Script}
    (stand : t.stand = .going (.wait gate next)) :
    ∃ f : Task → Task, (∀ u ∈ net.a.tasks, u.Continues (f u)) ∧
      (net.arriveAtGate .a t.serial gate next).a = { net.a with tasks := net.a.tasks.map f } ∧
      (net.arriveAtGate .a t.serial gate next).b = none ∧
      net.nextSerial ≤ (net.arriveAtGate .a t.serial gate next).nextSerial := by
  have run : ∀ s, t.stand.From s → (Stand.atGate net.nextSerial next).From s := by
    intro s run
    rw [stand] at run
    exact fun o => .wait run o
  unfold arriveAtGate
  cases net.gates.lookup gate with
  | none => exact ⟨_, Task.continues_setStand apart mem run, rfl, alone, Nat.le_succ _⟩
  | some earlier =>
    -- whoever waited at the gate before goes on first; the task itself waits nowhere yet
    have serials : (net.openGate earlier .dropped).a.tasks.map Task.serial =
        net.a.tasks.map Task.serial := by
      show (net.a.tasks.map (·.open_ earlier .dropped)).map Task.serial = _
      rw [List.map_map]
      exact List.map_congr_left fun u _ => (u.continues_open earlier .dropped).serial
    have there : t ∈ (net.openGate earlier .dropped).a.tasks :=
      List.mem_map.mpr ⟨t, mem, by rw [Task.open_, stand]⟩
    have moved := Task.continues_setStand (serials.symm ▸ apart) there run
    refine ⟨fun u => if (u.open_ earlier .dropped).serial = t.serial then
      { u.open_ earlier .dropped with stand := .atGate net.nextSerial next }
      else u.open_ earlier .dropped, fun u hu => ?_, ?_, ?_, Nat.le_succ _⟩
    · exact (u.continues_open earlier .dropped).trans (moved _ (List.mem_map_of_mem hu))
    · simp only [mapNode, Node.setStand, openGate, List.map_map]
      rfl
    · simp only [mapNode, openGate, alone, Option.map_none]

/-- A task does something else than end: all tasks go on, and no request is answered. -/
theorem stepTask_eq (alone : net.b = none) (apart : (net.a.tasks.map Task.serial).Nodup) {t : Task}
    (mem : t ∈ net.a.tasks) (going : t.ending? = none) :
    ∃ (f : Task → Task) (e : Endpoint), (∀ u ∈ net.a.tasks, u.Continues (f u)) ∧
      net.a.endpoint.Asks e ∧
      (net.stepTask .a net.a t).a = { net.a with endpoint := e, tasks := net.a.tasks.map f } ∧
      (net.stepTask .a net.a t).b = none ∧
      net.nextSerial ≤ (net.stepTask .a net.a t).nextSerial := by
  have same : ∃ (f : Task → Task) (e : Endpoint), (∀ u ∈ net.a.tasks, u.Continues (f u)) ∧
      net.a.endpoint.Asks e ∧
      net.a = { net.a with endpoint := e, tasks := net.a.tasks.map f } ∧ net.b = none ∧
      net.nextSerial ≤ net.nextSerial :=
    ⟨id, net.a.endpoint, fun u _ => .refl u, Endpoint.asks_of_transport rfl, by rw [List.map_id], alone,
      Nat.le_refl _⟩
  have moves {e : Endpoint} {stand : Stand} (asks : net.a.endpoint.Asks e)
      (run : ∀ s, t.stand.From s → stand.From s) {net' : Network}
      (a : net'.a = ({ net.a with endpoint := e }).setStand t.serial stand) (b : net'.b = net.b)
      (serial : net'.nextSerial = net.nextSerial) :
      ∃ (f : Task → Task) (e : Endpoint), (∀ u ∈ net.a.tasks, u.Continues (f u)) ∧
        net.a.endpoint.Asks e ∧
        net'.a = { net.a with endpoint := e, tasks := net.a.tasks.map f } ∧ net'.b = none ∧
        net.nextSerial ≤ net'.nextSerial :=
    ⟨_, e, Task.continues_setStand apart mem run, asks, a, b.trans alone, Nat.le_of_eq serial.symm⟩
  have quiet : net.a.endpoint.Asks net.a.endpoint := Endpoint.asks_of_transport rfl
  unfold stepTask
  cases stand : t.stand with
  | atGate ticket next => exact same
  | awaiting call next =>
    simp only
    cases polled : net.a.endpoint.poll call with
    | mk outcome rest =>
      obtain ⟨call', e⟩ := rest
      cases outcome with
      | none => exact same
      | some outcome =>
        have kept : e.transport = net.a.endpoint.transport := by
          have same := net.a.endpoint.transport_poll call
          rwa [polled] at same
        refine moves (Endpoint.asks_of_transport kept) (fun s run => ?_) rfl rfl rfl
        rw [stand] at run
        exact run outcome
  | going script =>
    cases script with
    | done outcome => simp [Task.ending?, stand] at going
    | panic payload => simp [Task.ending?, stand] at going
    | log entry next =>
      refine moves quiet (fun s run => ?_) rfl rfl rfl
      rw [stand] at run
      exact .log run
    | wait gate next =>
      obtain ⟨f, continues, a, b, serial⟩ := net.arriveAtGate_eq alone apart mem stand
      exact ⟨f, net.a.endpoint, continues, quiet, a, b, serial⟩
    | request what next =>
      refine moves (net.a.endpoint.asks_launch net.clock what) (fun s run => ?_) rfl rfl rfl
      rw [stand] at run
      exact fun o => .request run o
    | notify what next =>
      refine moves (net.a.endpoint.asks_announce what) (fun s run => ?_) rfl rfl rfl
      rw [stand] at run
      exact .notify run _
    | look next =>
      refine moves quiet (fun s run => ?_) rfl rfl rfl
      rw [stand] at run
      exact .look run _

namespace Lone

variable (lone : net.Lone)

include lone

theorem shifts_refl : net.Shifts [] net.a.tasks [] net :=
  shifts_same rfl lone.idle lone.alone (Endpoint.answers_of_transport rfl) (Nat.le_refl _)

/-- There is no other side. -/
theorem shifts_mapNode_b (f : Node → Node) : net.Shifts [] net.a.tasks [] (net.mapNode .b f) := by
  refine shifts_same rfl lone.idle ?_ (Endpoint.answers_of_transport rfl) (Nat.le_refl _)
  simp only [mapNode, lone.alone, Option.map_none]

theorem shifts_mapEndpoint (side : Side) {f : Endpoint → Endpoint}
    (answers : net.a.endpoint.Answers [] (f net.a.endpoint)) :
    net.Shifts [] net.a.tasks [] (net.mapNode side (·.mapEndpoint f)) := by
  cases side with
  | a => exact shifts_same rfl lone.idle lone.alone answers (Nat.le_refl _)
  | b => exact lone.shifts_mapNode_b _

theorem shifts_openGate (ticket : Nat) (opening : Opening) :
    net.Shifts [] net.a.tasks [] (net.openGate ticket opening) := by
  refine shifts_map (f := (·.open_ ticket opening)) rfl lone.idle ?_
    (Endpoint.answers_of_transport rfl) (fun t _ => t.continues_open ticket opening) (Nat.le_refl _)
  simp only [openGate, mapNode, lone.alone, Option.map_none]

theorem shifts_spawn (side : Side) (script : Script) :
    ∃ new, (∀ t ∈ new, t.role.requestId? = none) ∧
      net.Shifts [] net.a.tasks new (net.spawn side .caller script) := by
  cases side with
  | b =>
    refine ⟨[], fun t ht => absurd ht List.not_mem_nil, ?_⟩
    refine shifts_same rfl lone.idle ?_ (Endpoint.answers_of_transport rfl) (Nat.le_succ _)
    simp only [spawn, mapNode, lone.alone, Option.map_none]
  | a =>
    refine ⟨[⟨net.nextSerial, .caller, .going script⟩], ?_, lone.alone, lone.idle,
      Endpoint.answers_of_transport rfl, List.Sublist.refl _, ?_, Nat.le_succ _, ?_, ?_⟩
    · intro t ht
      rw [List.mem_singleton.mp ht]
      rfl
    · refine ⟨id, fun t _ => .refl t, ?_⟩
      rw [List.map_id]
      rfl
    · intro t ht
      rw [List.mem_singleton.mp ht]
      exact ⟨Nat.le_refl _, Nat.lt_succ_self _⟩
    · exact List.pairwise_singleton _ _

/-! ### Tasks -/

/-- A task that does something else than end. -/
theorem shifts_stepTask {t : Task} (mem : t ∈ net.a.tasks) (going : t.ending? = none) :
    net.Shifts [] net.a.tasks [] (net.stepTask .a net.a t) := by
  obtain ⟨f, e, continues, asks, a, b, serial⟩ := net.stepTask_eq lone.alone lone.apart mem going
  refine shifts_map (f := f) ?_ ?_ b ?_ continues serial
  · rw [a]
  · rw [a]
    exact lone.idle
  · rw [a]
    exact Endpoint.answers_of_asks asks

theorem shifts_endTask (t : Task) (ending : Ending) :
    net.Shifts (t.role.answers ending) (net.a.tasks.filter (·.serial != t.serial)) []
      (net.endTask .a t ending) := by
  have removed : ∀ {e : Endpoint} {net' : Network}, net.a.endpoint.Answers (t.role.answers ending) e →
      net'.a = ({ net.a with endpoint := e }.removeTask t.serial) → net'.b = none →
      net'.nextSerial = net.nextSerial →
      net.Shifts (t.role.answers ending) (net.a.tasks.filter (·.serial != t.serial)) [] net' := by
    intro e net' answers a b serial
    have keeps := (answers lone.keeps).1
    obtain ⟨e', same, transport⟩ := Node.releaseFrom_eq { net.a with endpoint := e }
      (m := { net.a with endpoint := e, tasks := net.a.tasks.filter (·.serial != t.serial) }) keeps
    rw [Node.removeTask, same] at a
    have after := answers.trans (Endpoint.answers_of_transport transport)
    rw [List.append_nil] at after
    refine ⟨b, ?_, ?_, List.filter_sublist, ⟨id, fun t _ => .refl t, ?_⟩, Nat.le_of_eq serial.symm, ?_,
      List.nodup_nil⟩
    · rw [a]
      exact lone.idle
    · rw [a]
      exact after
    · rw [a, List.map_id, List.append_nil]
    · exact fun t ht => absurd ht List.not_mem_nil
  unfold endTask
  cases role : t.role with
  | handler origin =>
    rw [role] at removed
    exact removed (net.a.endpoint.answers_finish origin ending) rfl lone.alone rfl
  | caller =>
    rw [role] at removed
    exact removed (Endpoint.answers_of_transport rfl) rfl lone.alone rfl

theorem step_task {t : Task} (mem : t ∈ net.a.tasks) :
    net.step (.task .a t.serial) = net.stepTask .a net.a t := by
  have found := Task.find?_serial lone.apart mem
  simp only [step, node?, found]

/-- The step of a task that has nothing left to do. -/
theorem shifts_end {t : Task} {ending : Ending} (mem : t ∈ net.a.tasks)
    (ends : t.ending? = some ending) :
    net.Shifts (t.role.answers ending) (net.a.tasks.filter (·.serial != t.serial)) []
      (net.event (.act (.go (.task .a t.serial)))) := by
  have same : net.event (.act (.go (.task .a t.serial))) = net.endTask .a t ending :=
    (lone.step_task mem).trans (net.stepTask_of_ending .a net.a ends)
  rw [same]
  exact lone.shifts_endTask t ending

theorem responds_task (serial : Nat) :
    net.Responds (.act (.go (.task .a serial))) (net.step (.task .a serial)) := by
  by_cases here : ∃ t ∈ net.a.tasks, t.serial = serial
  · obtain ⟨t, mem, rfl⟩ := here
    cases ends : t.ending? with
    | none =>
      rw [lone.step_task mem]
      exact .of_shifts rfl (lone.shifts_stepTask mem ends)
    | some ending => exact .ends mem ends (lone.shifts_end mem ends)
  · have absent : net.a.tasks.find? (·.serial == serial) = none := by
      rw [List.find?_eq_none]
      intro t mem same
      exact here ⟨t, mem, beq_iff_eq.mp same⟩
    simp only [step, node?, absent]
    exact .of_shifts rfl lone.shifts_refl

/-! ### Messages -/

theorem shifts_message {m : Message} {answers : List Response} {jobs : List Job}
    (answered : net.a.endpoint.Answers answers (net.a.endpoint.handle m).1)
    (started : (net.a.endpoint.handle m).2 = jobs) :
    net.Shifts answers net.a.tasks (Task.ofJobs net.nextSerial jobs) (net.event (.message m)) := by
  have after : net.event (.message m) = { net with
      a := { net.a with
        endpoint := (net.a.endpoint.handle m).1
        tasks := net.a.tasks ++ Task.ofJobs net.nextSerial jobs }
      nextSerial := net.nextSerial + jobs.length } := by
    simp only [event, atEndpoint, node?, started, spawnJobs_a]
    rfl
  rw [after]
  refine ⟨lone.alone, lone.idle, answered, List.Sublist.refl _, ⟨id, fun t _ => .refl t, ?_⟩,
    Nat.le_add_right _ _, fun t ht => ?_, Task.nodup_ofJobs _ _⟩
  · rw [List.map_id]
  · obtain ⟨least, most, -⟩ := Task.mem_ofJobs ht
    exact ⟨least, most⟩

theorem responds_message (m : Message) : net.Responds (.message m) (net.event (.message m)) := by
  cases m with
  | notification n =>
    obtain ⟨answered, started⟩ := net.a.endpoint.handle_notification n
    exact .quietly rfl requestId?_notificationJobs (lone.shifts_message answered started)
  | response r =>
    obtain ⟨answered, started⟩ := net.a.endpoint.handle_response r
    exact .of_shifts rfl (lone.shifts_message answered started)
  | request r =>
    cases refused : r.refusal? net.a.endpoint.registry.requests with
    | some err =>
      obtain ⟨answered, started⟩ := net.a.endpoint.handle_refused lone.keeps refused
      exact .refuses refused requestId?_notificationJobs (lone.shifts_message answered started)
    | none =>
      obtain ⟨h, found, same⟩ := net.a.endpoint.handle_started refused
      have answered : net.a.endpoint.Answers [] (net.a.endpoint.handle (.request r)).1 := by
        rw [same]
        exact Endpoint.answers_of_transport rfl
      have shifts := lone.shifts_message answered (congrArg Prod.snd same)
      rw [Task.ofJobs_append] at shifts
      exact .starts refused found requestId?_notificationJobs shifts

/-! ### Whatever happens -/

theorem responds_consult {what : Session.Ask} (accepting : ∀ failure, what ≠ .failPosts failure) :
    net.Responds (.ask what accepting) (net.event (.ask what accepting)) := by
  refine .of_shifts rfl (lone.shifts_mapEndpoint .a
    (f := fun e => (Session.consult e what).2) ?_)
  exact Endpoint.answers_of_asks (Session.asks_consult net.a.endpoint fun failure same =>
    absurd same (accepting failure))

theorem responds_letGo : net.Responds .letGo (net.event .letGo) := by
  obtain ⟨e, same, transport⟩ := net.a.releaseFrom_eq (m := { net.a with held := false }) lone.keeps
  have after : net.event .letGo = { net with a := { net.a with held := false, endpoint := e } } := by
    simp only [event, mapNode, Node.letGo, same]
  rw [after]
  exact .of_shifts rfl (shifts_same rfl lone.idle lone.alone
    (Endpoint.answers_of_transport transport) (Nat.le_refl _))

/-- The other side is not there. -/
theorem step_b {agent : Agent} (side : (Act.go agent).side? = some .b) : net.step agent = net := by
  cases agent with
  | sentinel _ | receiving _ _ | writing _ _ | reading _ _ | task _ _ | timer _ _ =>
    obtain rfl := Option.some.inj side
    simp only [step, node?, lone.alone]

/-- The background loops of a lone endpoint do not run. -/
theorem responds_agent (agent : Agent) : net.Responds (.act (.go agent)) (net.step agent) := by
  obtain ⟨receiving, writer, reader⟩ := lone.idle
  have nothing : ∀ {ev : Event}, ev.request? = none → net.Responds ev net :=
    fun other => .of_shifts other lone.shifts_refl
  have absent : (Act.go agent).side? = some .b → net.Responds (.act (.go agent)) (net.step agent) := by
    intro side
    rw [lone.step_b side]
    exact nothing rfl
  cases agent with
  | sentinel side =>
    cases side with
    | a =>
      simp only [step, node?]
      split
      · exact .of_shifts rfl (shifts_same rfl lone.idle lone.alone
          (Endpoint.answers_of_transport rfl) (Nat.le_refl _))
      · exact nothing rfl
    | b => exact absent rfl
  | receiving side heeds =>
    cases side with
    | a =>
      simp only [step, node?, receiving, Bool.false_eq_true, if_false]
      exact nothing rfl
    | b => exact absent rfl
  | writing side heeds =>
    cases side with
    | a =>
      simp only [step, node?, writer]
      exact nothing rfl
    | b => exact absent rfl
  | reading side heeds =>
    cases side with
    | a =>
      simp only [step, node?, reader]
      exact nothing rfl
    | b => exact absent rfl
  | task side serial =>
    cases side with
    | a => exact lone.responds_task serial
    | b => exact absent rfl
  | timer side ticket =>
    cases side with
    | a =>
      simp only [step, node?]
      split
      · rename_i t _
        exact .of_shifts rfl (lone.shifts_mapEndpoint .a (f := (·.expire t))
          (Endpoint.answers_of_transport (Endpoint.transport_expire t)))
      · exact nothing rfl
    | b => exact absent rfl

theorem responds_act (what : Act) : net.Responds (.act what) (net.event (.act what)) := by
  cases what with
  | go agent => exact lone.responds_agent agent
  | launch side what =>
    exact .of_shifts rfl
      (lone.shifts_mapEndpoint side ((Endpoint.answers_of_asks (net.a.endpoint.asks_launch net.clock what))))
  | announce side what =>
    exact .of_shifts rfl (lone.shifts_mapEndpoint side ((Endpoint.answers_of_asks (net.a.endpoint.asks_announce what))))
  | poll side call =>
    exact .of_shifts rfl (lone.shifts_mapEndpoint side
      (Endpoint.answers_of_transport (net.a.endpoint.transport_poll call)))
  | drop side call =>
    exact .of_shifts rfl (lone.shifts_mapEndpoint side
      (Endpoint.answers_of_transport (net.a.endpoint.transport_drop call)))
  | run side script =>
    obtain ⟨new, others, shifts⟩ := lone.shifts_spawn side script
    exact .quietly rfl others shifts
  | openGate ticket opening => exact .of_shifts rfl (lone.shifts_openGate ticket opening)
  | pass span =>
    exact .of_shifts rfl (shifts_same rfl lone.idle lone.alone
      (Endpoint.answers_of_transport rfl) (Nat.le_refl _))

theorem responds (ev : Event) : net.Responds ev (net.event ev) := by
  cases ev with
  | message m => exact lone.responds_message m
  | act what => exact lone.responds_act what
  | ask what accepting => exact lone.responds_consult accepting
  | letGo => exact lone.responds_letGo

end Lone

end Network

end DuplexRpc

import DuplexRpc.Proofs.Endpoint.Deed
import DuplexRpc.Proofs.Network.Live

/-! What can happen at a side. `Happening` has one case for each way of a message: a request that is
posted, asked, refused or answered, a handler that ends, and all that answers no request. Every act
on a live network is one of these at its side and leaves the other side alone. -/

namespace DuplexRpc

/-- What the end of a task makes its endpoint post. -/
def Role.answer (ending : Ending) : Role → List Message
  | .handler origin => origin.answer ending
  | .caller => []

/-- What can happen at a side with the endpoint `e` and `tasks`: what is seen of it, and the
endpoint and the tasks after it. The transport is left out. -/
inductive Happening (clock : Nat) (e : Endpoint) (tasks : List Task) :
    Trace → Endpoint → List Task → Prop where
  | quiet {e' : Endpoint} (posted : List Message) {tasks' : List Task} (quiet : e.Quiet e')
      (notifications : ∀ m ∈ posted, ∃ n, m = .notification n)
      (advance : Task.Advance tasks tasks') :
      Happening clock e tasks { posted } e' tasks'
  | launched {e' : Endpoint} {posted : List Message} {tasks' : List Task}
      (launched : e.Launched clock posted e') (advance : Task.Advance tasks tasks') :
      Happening clock e tasks { posted } e' tasks'
  | took (ticket : Nat) {outcome : Outcome} {tasks' : List Task}
      (there : (e.pool.slots.find? ticket).bind Slot.outcome? = some outcome)
      (advance : Task.Advance tasks tasks') :
      Happening clock e tasks { taken := [(ticket, outcome)] }
        { e with pool := { e.pool with slots := e.pool.slots.erase ticket } } tasks'
  | left (ticket : Nat) (id : Id) {tasks' : List Task} (advance : Task.Advance tasks tasks') :
      Happening clock e tasks { dropped := [(ticket, id)] } (e.leave ticket id) tasks'
  | expired (timer : Timer) {tasks' : List Task} (armed : timer ∈ e.pool.timers)
      (advance : Task.Advance tasks tasks') :
      Happening clock e tasks {} (e.expire timer) tasks'
  | spawned {e' : Endpoint} (handled : List Message) (new : List Task) (quiet : e.Quiet e')
      (notifications : ∀ m ∈ handled, ∃ n, m = .notification n)
      (roles : ∀ t ∈ new, t.role.requestId? = none) :
      Happening clock e tasks { handled, started := new } e' (tasks ++ new)
  | asked {r : Request} {h : Handler} (new : List Task) (t : Task)
      (accepted : r.refusal? e.registry.requests = none)
      (found : Fields.get? r.method e.registry.requests = some h)
      (roles : ∀ t ∈ new, t.role.requestId? = none)
      (role : t.role = .handler (.request r.id r.method))
      (stand : t.stand = .going (h { method := r.method, id := some r.id } r.params)) :
      Happening clock e tasks { handled := [.request r], started := new ++ [t] } e
        (tasks ++ (new ++ [t]))
  | refused {e' : Endpoint} {r : Request} {err : RpcError} (new : List Task) (quiet : e.Quiet e')
      (refused : r.refusal? e.registry.requests = some err)
      (roles : ∀ t ∈ new, t.role.requestId? = none) :
      Happening clock e tasks
        { posted := [.response ⟨r.id, .error err⟩], handled := [.request r], started := new } e'
        (tasks ++ new)
  | answered (r : Response) :
      Happening clock e tasks { handled := [.response r], resolved := e.pool.matched [r] }
        (e.takeResponse r) tasks
  | ended {e' : Endpoint} {t : Task} {ending : Ending} {rest : List Task} (quiet : e.Quiet e')
      (removed : tasks.Perm (t :: rest)) (ends : t.ending? = some ending) :
      Happening clock e tasks { posted := t.role.answer ending, ended := [(t, ending)] } e' rest

namespace Happening

variable {clock : Nat} {e e' : Endpoint} {tasks tasks' : List Task} {trace : Trace}

theorem keeps (h : Happening clock e tasks trace e' tasks') :
    e'.config = e.config ∧ e'.isStopped = e.isStopped ∧
      e'.registry.requests = e.registry.requests := by
  cases h with
  | quiet _ quiet | spawned _ _ quiet | refused _ quiet | ended quiet =>
    exact ⟨quiet.config, quiet.stopped, quiet.requests⟩
  | left ticket id =>
    have steady := e.steady_leave ticket id
    exact ⟨steady.config, steady.stopped, steady.requests⟩
  | expired timer =>
    have steady := e.steady_expire timer
    exact ⟨steady.config, steady.stopped, steady.requests⟩
  | took | asked => exact ⟨rfl, rfl, rfl⟩
  | answered r =>
    cases hf : e.pool.find? r.id with
    | none =>
      rw [Endpoint.takeResponse_of_find?_none hf]
      exact ⟨rfl, rfl, rfl⟩
    | some p =>
      rw [Endpoint.takeResponse_of_find? hf]
      exact ⟨rfl, rfl, rfl⟩
  | launched launched =>
    cases launched with
    | idle _ quiet | inFlight _ quiet | posted _ quiet =>
      exact ⟨quiet.config, quiet.stopped, quiet.requests⟩

end Happening

/-! ### Deeds -/

namespace Deed

variable {clock : Nat} {e e' : Endpoint} {d : Deed} {ms : List Message}

/-- The deed posts `ms` to a transport that takes them, and leaves `e'` around it. -/
def Does (clock : Nat) (e : Endpoint) (d : Deed) (ms : List Message) (e' : Endpoint) : Prop :=
  ∀ t : Transport, t.IsOpen → d.run clock (e.via t) = e'.via (t.pushAll ms)

theorem Does.posts (h : d.Does clock e ms e') : d.posts clock e = ms := by
  have opened : (Transport.recorder [] none).IsOpen := rfl
  rw [Deed.posts, h _ opened, Endpoint.via_transport, Transport.pushAll_recorder]
  rfl

theorem Does.run (h : d.Does clock e ms e') (opened : e.transport.IsOpen) :
    d.run clock e = e'.via (e.transport.pushAll ms) :=
  h e.transport opened

/-- What a call posts, and what it does to its endpoint. -/
theorem IsCall.does (isCall : d.IsCall e) (live : e.isStopped = false) {tasks tasks' : List Task}
    (advance : Task.Advance tasks tasks') (clock : Nat) :
    ∃ ms e', d.Does clock e ms e' ∧
      Happening clock e tasks { posted := ms, taken := d.taken e, dropped := d.dropped } e'
        tasks' := by
  have none : ∀ m ∈ ([] : List Message), ∃ n, m = .notification n :=
    fun _ hm => absurd hm List.not_mem_nil
  have idle : Happening clock e tasks {} e tasks' := .quiet [] (.refl e) none advance
  cases d with
  | handle frame => exact isCall.elim
  | finish origin ending => exact isCall.elim
  | nothing => exact ⟨[], e, fun _ _ => rfl, idle⟩
  | launch what =>
    obtain ⟨ms, e', launched, same⟩ := e.launch_via live clock what
    exact ⟨ms, e', same, .launched launched advance⟩
  | announce what =>
    obtain ⟨ms, e', quiet, notifications, same⟩ := e.announce_via what
    exact ⟨ms, e', same, .quiet ms quiet notifications advance⟩
  | poll call =>
    refine ⟨[], _, fun t _ => e.poll_via call, ?_⟩
    cases call with
    | waiting id ticket =>
      simp only [taken, dropped, Endpoint.poll_waiting]
      cases there : (e.pool.slots.find? ticket).bind Slot.outcome? with
      | none => exact idle
      | some outcome => exact .took ticket there advance
    | _ => exact idle
  | drop call =>
    refine ⟨[], _, fun t _ => e.drop_via call, ?_⟩
    cases call with
    | waiting id ticket => exact .left ticket id advance
    | _ => exact idle
  | expire timer => exact ⟨[], _, fun t _ => e.expire_via timer, .expired timer isCall advance⟩

theorem IsCall.handled (isCall : d.IsCall e) (codec : Codec) : d.handled codec = [] := by
  cases d with
  | handle frame => exact isCall.elim
  | _ => rfl

/-- What the frame of a message makes an endpoint post, and which tasks it starts. -/
theorem handle_does {frame : Frame} {m : Message} (decoded : e.config.codec.decode frame = .ok m)
    (opened : e.transport.IsOpen) (tasks : List Task) (serial clock : Nat) :
    ∃ ms e', (Deed.handle frame).Does clock e ms e' ∧
      Happening clock e tasks
        { posted := ms, handled := [m], started := Task.ofJobs serial (e.handleFrame frame).2
          resolved := e.pool.matched ([m].filterMap Message.response?) } e'
        (tasks ++ Task.ofJobs serial (e.handleFrame frame).2) := by
  have handled : ∀ t, (e.via t).handleFrame frame = (e.via t).handle m :=
    fun t => Endpoint.handleFrame_of_decode decoded
  have here : e.handleFrame frame = (e.via e.transport).handle m := handled e.transport
  have plain : ∀ n, ∀ t ∈ Task.ofJobs serial (e.notificationJobs n), t.role.requestId? = none := by
    intro n t ht
    obtain ⟨-, -, job, mem, role⟩ := Task.mem_ofJobs ht
    rw [role, Endpoint.origin_notificationJobs mem]
    rfl
  cases m with
  | notification n =>
    obtain ⟨e', quiet, same⟩ := e.handle_notification_via n
    refine ⟨[], e', fun t _ => ?_, ?_⟩
    · exact congrArg Prod.fst ((handled t).trans (same t))
    · rw [here, same]
      refine .spawned [.notification n] _ quiet ?_ (plain n)
      intro m hm
      exact ⟨n, List.mem_singleton.mp hm⟩
  | response r =>
    refine ⟨[], e.takeResponse r, fun t _ => ?_, ?_⟩
    · exact congrArg Prod.fst ((handled t).trans (e.handle_response_via r t))
    · rw [here, e.handle_response_via r, Task.ofJobs, List.append_nil]
      exact .answered r
  | request r =>
    cases hr : r.refusal? e.registry.requests with
    | some err =>
      obtain ⟨e', quiet, same⟩ := e.handle_refused_via hr
      refine ⟨_, e', fun t ht => congrArg Prod.fst ((handled t).trans (same t ht)), ?_⟩
      rw [here, same _ opened]
      exact .refused _ quiet hr (plain _)
    | none =>
      obtain ⟨h, found, same⟩ := e.handle_started_via hr
      refine ⟨[], e, fun t _ => congrArg Prod.fst ((handled t).trans (same t)), ?_⟩
      rw [here, same, Task.ofJobs_append]
      exact .asked _ _ hr found (plain _) rfl rfl

end Deed

end DuplexRpc

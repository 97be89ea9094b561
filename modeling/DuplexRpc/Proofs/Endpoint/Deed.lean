import DuplexRpc.Proofs.Endpoint.Pool
import DuplexRpc.Proofs.Network.Course

/-! What each deed does to an endpoint whose transport takes every message. The transport decides
nothing else: a deed posts the same messages to each and leaves the same endpoint around it. -/

namespace DuplexRpc

namespace Transport

/-- The transport takes every message. -/
def IsOpen : Transport → Prop
  | .recorder _ failure => failure = none
  | .queue _ limit box => limit = none ∧ box.receiverGone = false

def push (t : Transport) (m : Message) : Transport :=
  match t with
  | .recorder posted failure => .recorder (posted ++ [m]) failure
  | .queue codec limit box =>
    .queue codec limit { box with frames := box.frames ++ [codec.encode m] }

def pushAll (t : Transport) (ms : List Message) : Transport :=
  ms.foldl push t

theorem post_of_isOpen {t : Transport} (h : t.IsOpen) (m : Message) : t.post m = .ok (t.push m) := by
  match t, h with
  | .recorder posted none, _ => rfl
  | .queue codec none ⟨frames, senderGone, false⟩, _ => rfl

theorem pushAll_recorder (posted : List Message) (failure : Option RpcError) (ms : List Message) :
    (recorder posted failure).pushAll ms = .recorder (posted ++ ms) failure := by
  induction ms generalizing posted with
  | nil => rw [List.append_nil]; rfl
  | cons m ms ih => exact (ih (posted ++ [m])).trans (by rw [List.append_assoc]; rfl)

theorem pushAll_queue (codec : Codec) (limit : Option Nat) (box : Mailbox) (ms : List Message) :
    (queue codec limit box).pushAll ms =
      .queue codec limit { box with frames := box.frames ++ ms.map codec.encode } := by
  induction ms generalizing box with
  | nil => rw [List.map_nil, List.append_nil]; rfl
  | cons m ms ih =>
    exact (ih { box with frames := box.frames ++ [codec.encode m] }).trans
      (by rw [List.append_assoc]; rfl)

end Transport

/-! ### Endpoints with another transport -/

namespace Endpoint

variable {e : Endpoint} {t : Transport}

@[simp] theorem via_ids : (e.via t).ids = e.ids := rfl
@[simp] theorem via_pool : (e.via t).pool = e.pool := rfl
@[simp] theorem via_transport : (e.via t).transport = t := rfl
@[simp] theorem via_isStopped : (e.via t).isStopped = e.isStopped := rfl

theorem reply_via (h : t.IsOpen) (r : Response) :
    (e.via t).reply r = e.via (t.pushAll [.response r]) := by
  rw [reply, via_transport, Transport.post_of_isOpen h]
  rfl

/-- How many requests took an id. -/
def requestCount (e : Endpoint) : Nat :=
  e.notes.countP fun n => n matches .requesting _ _

end Endpoint

/-! ### Changes that post nothing to answer for -/

/-- A pool to which nothing was added, and which lost slots at most of tickets without an entry. -/
structure PendingPool.Shrinks (pool pool' : PendingPool) : Prop where
  sound : pool.Sound → pool'.Sound
  entries : ∀ q ∈ pool'.entries, q ∈ pool.entries
  next : pool'.nextTicket = pool.nextTicket
  slots : ∀ t, (∀ q ∈ pool.entries, q.ticket ≠ t) →
    pool'.slots.find? t = pool.slots.find? t ∨ pool'.slots.find? t = none

namespace PendingPool

variable {pool pool' pool'' : PendingPool}

theorem Shrinks.refl (pool : PendingPool) : pool.Shrinks pool where
  sound h := h
  entries _ h := h
  next := rfl
  slots _ _ := Or.inl rfl

theorem Shrinks.trans (h : pool.Shrinks pool') (h' : pool'.Shrinks pool'') :
    pool.Shrinks pool'' where
  sound sound := h'.sound (h.sound sound)
  entries q hq := h.entries q (h'.entries q hq)
  next := h'.next.trans h.next
  slots t gone := by
    rcases h'.slots t fun q hq => gone q (h.entries q hq) with same | none
    · rw [same]
      exact h.slots t gone
    · exact Or.inr none

theorem shrinks_eraseSlot (pool : PendingPool) (ticket : Nat) :
    pool.Shrinks { pool with slots := pool.slots.erase ticket } where
  sound h := h.eraseSlot ticket
  entries _ h := h
  next := rfl
  slots t _ := by
    by_cases ht : t = ticket
    · exact Or.inr (ht ▸ Slots.find?_erase_self)
    · exact Or.inl (Slots.find?_erase_of_ne ht)

theorem shrinks_close {p : PendingRequest} {slot : Slot} (hp : p ∈ pool.entries)
    (hs : slot ≠ .vacant) : pool.Shrinks (pool.close p slot) where
  sound h := h.close hp hs
  entries _ h := (mem_entries_close.mp h).1
  next := rfl
  slots _ gone := Or.inl (slot_close_of_ne fun same => gone p hp same.symm)

theorem shrinks_leave (pool : PendingPool) (ticket : Nat) (id : Id) :
    pool.Shrinks (pool.leave ticket id).2 := by
  cases hf : pool.find? id with
  | none =>
    rw [leave_of_find?_none hf]
    exact shrinks_eraseSlot pool ticket
  | some p =>
    rw [leave_of_find? hf]
    exact (shrinks_eraseSlot pool ticket).trans (shrinks_close (find?_eq_some hf).1 nofun)

theorem shrinks_expire (pool : PendingPool) (sound : pool.Sound) {t : Timer} (ht : t ∈ pool.timers) :
    pool.Shrinks (pool.expire t).2 := by
  obtain ⟨p, hp, -, same⟩ := sound.expire_eq ht
  rw [same]
  exact shrinks_close hp nofun

end PendingPool

/-- A change of an endpoint that takes no id and counts no response that nobody waits for. The pool
and the transport are left out. -/
structure Endpoint.Steady (e e' : Endpoint) : Prop where
  config : e'.config = e.config
  requests : e'.registry.requests = e.registry.requests
  notifications : e'.registry.notifications = e.registry.notifications
  ids : e'.ids = e.ids
  stopped : e'.isStopped = e.isStopped
  unmatched : e'.counters.unmatchedResponses = e.counters.unmatchedResponses
  count : e'.requestCount = e.requestCount

/-- A change that leaves the pool alone as well. -/
structure Endpoint.Quiet (e e' : Endpoint) : Prop extends e.Steady e' where
  pool : e'.pool = e.pool

namespace Endpoint

variable {e e' e'' : Endpoint} {t : Transport}

theorem Steady.trans (h : e.Steady e') (h' : e'.Steady e'') : e.Steady e'' where
  config := h'.config.trans h.config
  requests := h'.requests.trans h.requests
  notifications := h'.notifications.trans h.notifications
  ids := h'.ids.trans h.ids
  stopped := h'.stopped.trans h.stopped
  unmatched := h'.unmatched.trans h.unmatched
  count := h'.count.trans h.count

theorem Quiet.refl (e : Endpoint) : e.Quiet e :=
  ⟨⟨rfl, rfl, rfl, rfl, rfl, rfl, rfl⟩, rfl⟩

theorem Quiet.shrinks (h : e.Quiet e') : e.pool.Shrinks e'.pool :=
  h.pool ▸ .refl _

theorem Quiet.trans (h : e.Quiet e') (h' : e'.Quiet e'') : e.Quiet e'' :=
  ⟨h.toSteady.trans h'.toSteady, h'.pool.trans h.pool⟩

theorem requestCount_note (e : Endpoint) (n : Note) :
    (e.note n).requestCount = e.requestCount + if n matches .requesting _ _ then 1 else 0 := by
  simp only [requestCount, note, List.countP_append, List.countP_singleton]

theorem quiet_note (e : Endpoint) {n : Note} (h : (n matches .requesting _ _) = false) :
    e.Quiet (e.note n) :=
  ⟨⟨rfl, rfl, rfl, rfl, rfl, rfl, by rw [requestCount_note, h]; rfl⟩, rfl⟩

theorem quiet_countUnhandled (e : Endpoint) : e.Quiet e.countUnhandled :=
  ⟨⟨rfl, rfl, rfl, rfl, rfl, rfl, rfl⟩, rfl⟩

theorem quiet_countFailed (e : Endpoint) : e.Quiet e.countFailed :=
  ⟨⟨rfl, rfl, rfl, rfl, rfl, rfl, rfl⟩, rfl⟩

theorem quiet_resolve (e : Endpoint) (service : ServiceDescriptor) (method : MethodDescriptor) :
    e.Quiet (e.resolve service method).2 :=
  ⟨⟨rfl, rfl, rfl, rfl, rfl, rfl, rfl⟩, rfl⟩

theorem steady_pool (e : Endpoint) (pool : PendingPool) : e.Steady { e with pool } :=
  ⟨rfl, rfl, rfl, rfl, rfl, rfl, rfl⟩

theorem steady_leave (e : Endpoint) (ticket : Nat) (id : Id) : e.Steady (e.leave ticket id) := by
  unfold leave
  split
  · exact (e.steady_pool _).trans (quiet_note _ rfl).toSteady
  · exact e.steady_pool _

theorem steady_expire (e : Endpoint) (timer : Timer) : e.Steady (e.expire timer) := by
  unfold expire
  split
  · exact (e.steady_pool _).trans (quiet_note _ rfl).toSteady
  · exact e.steady_pool _

/-! ### The same deed with another transport -/

theorem poll_via (call : Call) : ((e.via t).poll call).2.2 = (e.poll call).2.2.via t := by
  cases call with
  | waiting id ticket =>
    rw [poll_waiting, poll_waiting, via_pool]
    cases (e.pool.slots.find? ticket).bind Slot.outcome? <;> rfl
  | _ => rfl

theorem drop_via (call : Call) : (e.via t).drop call = (e.drop call).via t := by
  cases call with
  | waiting id ticket =>
    simp only [drop, leave, via_pool]
    split <;> rfl
  | _ => rfl

theorem expire_via (timer : Timer) : (e.via t).expire timer = (e.expire timer).via t := by
  simp only [expire, via_pool]
  split <;> rfl

/-! ### Requests -/

/-- What a call comes to: nothing was posted and no id taken, or the id that was taken is in flight,
or a request was posted. -/
inductive Launched (clock : Nat) (e : Endpoint) : List Message → Endpoint → Prop where
  | idle (e' : Endpoint) (before : e.Quiet e') : Launched clock e [] e'
  | inFlight (e' : Endpoint) (before : e.Quiet e') (q : PendingRequest) (method : String)
      (found : e'.pool.find? e'.ids.take.1 = some q) :
      Launched clock e []
        ({ e' with ids := e'.ids.take.2 }.note (.requesting e'.ids.take.1 method))
  | posted (e' : Endpoint) (before : e.Quiet e') (method : String) (params : Option Value)
      (timeout : Option Duration) (resultType : String)
      (free : e'.pool.find? e'.ids.take.1 = none) :
      Launched clock e [.request { id := e'.ids.take.1, method, params }]
        (e'.entered clock method params timeout resultType)

theorem Launched.of_quiet {clock : Nat} {ms : List Message} (h : Launched clock e' ms e'')
    (before : e.Quiet e') : Launched clock e ms e'' := by
  cases h with
  | idle _ h => exact .idle _ (before.trans h)
  | inFlight e' h q method found => exact .inFlight e' (before.trans h) q method found
  | posted e' h method params timeout resultType free =>
    exact .posted e' (before.trans h) method params timeout resultType free

/-- A request whose id is free is entered and posted. -/
theorem request_entered_via (live : e.isStopped = false) (free : e.pool.find? e.ids.take.1 = none)
    (clock : Nat) (method : String) (params : Option Value) (timeout : Option Duration)
    (resultType : String) (ht : t.IsOpen) :
    (e.via t).request clock method params timeout resultType =
      (.waiting e.ids.take.1 e.pool.nextTicket,
        (e.entered clock method params timeout resultType).via
          (t.pushAll [.request { id := e.ids.take.1, method, params }])) := by
  simp only [request, via_isStopped, live, PendingPool.add, via_pool, via_ids, free, note,
    Bool.false_eq_true, if_false, postRequest, via_transport, Transport.post_of_isOpen ht]
  rfl

theorem request_via (e : Endpoint) (live : e.isStopped = false) (clock : Nat) (method : String)
    (params : Option Value) (timeout : Option Duration) (resultType : String) :
    ∃ ms e', Launched clock e ms e' ∧ ∀ t : Transport, t.IsOpen →
      ((e.via t).request clock method params timeout resultType).2 = e'.via (t.pushAll ms) := by
  cases hf : e.pool.find? e.ids.take.1 with
  | some q =>
    refine ⟨_, _, .inFlight e (.refl e) q method hf, fun t ht => ?_⟩
    simp only [request, via_isStopped, live, PendingPool.add, via_pool, via_ids, hf, note,
      Bool.false_eq_true, if_false]
    rfl
  | none =>
    refine ⟨_, _, .posted e (.refl e) method params timeout resultType hf, fun t ht => ?_⟩
    exact congrArg Prod.snd
      (request_entered_via live hf clock method params timeout resultType ht)

/-- A call of a declared method, whose mapping, parameters and id are known, is posted. -/
theorem launch_mapped_via (live : e.isStopped = false) (free : e.pool.find? e.ids.take.1 = none)
    {client : Client} {service : ServiceDescriptor} {method : MethodDescriptor} {args : List Value}
    {m : MethodMapping} {params : Option Value} (resolved : (e.resolve service method).1 = .ok m)
    (kind : m.kind = .request) (packed : m.pack args = .ok params) (clock : Nat) (ht : t.IsOpen) :
    (e.via t).launch clock (.mapped client service method (.ok args)) =
      (.waiting e.ids.take.1 e.pool.nextTicket,
        ((e.resolve service method).2.entered clock m.name params (m.timeout.or client.timeout)
          m.resultType).via (t.pushAll [.request { id := e.ids.take.1, method := m.name, params }])) := by
  have found : (e.via t).resolve service method =
      (.ok m, (e.resolve service method).2.via t) := by
    rw [← resolved]
    rfl
  have notice : m.kind ≠ .notification := by
    rw [kind]
    decide
  simp only [launch, found, if_neg notice, pack, packed]
  exact request_entered_via (e := (e.resolve service method).2) live free clock m.name params
    (m.timeout.or client.timeout) m.resultType ht

theorem launch_via (e : Endpoint) (live : e.isStopped = false) (clock : Nat) (what : Launch) :
    ∃ ms e', Launched clock e ms e' ∧ ∀ t : Transport, t.IsOpen →
      ((e.via t).launch clock what).2 = e'.via (t.pushAll ms) := by
  cases what with
  | plain method params timeout resultType =>
    exact e.request_via live clock method params timeout resultType
  | mapped client service method args =>
    have before := e.quiet_resolve service method
    have resolved : ∀ t, (e.via t).resolve service method =
        ((e.resolve service method).1, (e.resolve service method).2.via t) := fun _ => rfl
    rcases hr : e.resolve service method with ⟨err | m, e'⟩
    all_goals rw [hr] at before resolved
    · refine ⟨_, _, .idle e' before, fun t _ => ?_⟩
      simp only [launch, resolved]
      rfl
    · by_cases hk : m.kind = .notification
      · refine ⟨_, _, .idle e' before, fun t _ => ?_⟩
        simp only [launch, resolved, hk, if_true]
        rfl
      · cases hp : pack m args with
        | error err =>
          refine ⟨_, _, .idle e' before, fun t _ => ?_⟩
          simp only [launch, resolved, hk, if_false, hp]
          rfl
        | ok params =>
          obtain ⟨ms, e'', launched, same⟩ := e'.request_via (before.stopped.trans live) clock
            m.name params (m.timeout.or client.timeout) m.resultType
          refine ⟨ms, e'', launched.of_quiet before, fun t ht => ?_⟩
          simp only [launch, resolved, hk, if_false, hp]
          exact same t ht

/-- A call of `announce` posts one notification at most. -/
theorem announce_via (e : Endpoint) (what : Launch) :
    ∃ ms e', e.Quiet e' ∧ (∀ m ∈ ms, ∃ n, m = .notification n) ∧ ∀ t : Transport, t.IsOpen →
      ((e.via t).announce what).2 = e'.via (t.pushAll ms) := by
  have posts : ∀ (e : Endpoint) (method : String) (params : Option Value),
      ∃ ms e', e.Quiet e' ∧ (∀ m ∈ ms, ∃ n, m = .notification n) ∧ ∀ t : Transport, t.IsOpen →
        ((e.via t).notify method params).2 = e'.via (t.pushAll ms) := by
    intro e method params
    refine ⟨[.notification { method, params }], e.note (.notifying method), quiet_note e rfl, ?_, ?_⟩
    · intro m hm
      exact ⟨_, List.mem_singleton.mp hm⟩
    · intro t ht
      have posted := Transport.post_of_isOpen ht (.notification { method, params })
      simp only [notify, note, via_transport, posted]
      rfl
  cases what with
  | plain method params timeout resultType => exact posts e method params
  | mapped client service method args =>
    have before := e.quiet_resolve service method
    have resolved : ∀ t, (e.via t).resolve service method =
        ((e.resolve service method).1, (e.resolve service method).2.via t) := fun _ => rfl
    rcases hr : e.resolve service method with ⟨err | m, e'⟩
    all_goals rw [hr] at before resolved
    · refine ⟨[], e', before, fun _ hm => absurd hm List.not_mem_nil, fun t _ => ?_⟩
      simp only [announce, resolved]
      rfl
    · cases hp : pack m args with
      | error err =>
        refine ⟨[], e', before, fun _ hm => absurd hm List.not_mem_nil, fun t _ => ?_⟩
        simp only [announce, resolved, hp]
        rfl
      | ok params =>
        obtain ⟨ms, e'', after, notifications, same⟩ := posts e' m.name params
        refine ⟨ms, e'', before.trans after, notifications, fun t ht => ?_⟩
        simp only [announce, resolved, hp]
        exact same t ht

end Endpoint

/-! ### Inbound messages -/

/-- The messages that a handler's end makes its endpoint post. -/
def Origin.answer (ending : Ending) : Origin → List Message
  | .request id _ => [.response ⟨id, ending.toOutcome⟩]
  | .notification _ => []

/-- The error that a request is answered with at once, where it has no method or no handler. -/
def Request.refusal? (handlers : List (String × Handler)) (r : Request) : Option RpcError :=
  if r.method.isEmpty then some { kind := .invalidRequest, message := "empty method name" }
  else
    match Fields.get? r.method handlers with
    | none => some (.methodNotFound r.method)
    | some _ => none

/-- The run of the handler of a request. -/
def Request.job (r : Request) (h : Handler) : Job :=
  ⟨.request r.id r.method, h { method := r.method, id := some r.id } r.params⟩

namespace Endpoint

variable {e : Endpoint}

theorem finish_via (e : Endpoint) (origin : Origin) (ending : Ending) :
    ∃ e', e.Quiet e' ∧ ∀ t : Transport, t.IsOpen →
      (e.via t).finish origin ending = e'.via (t.pushAll (origin.answer ending)) := by
  cases origin with
  | request id method =>
    cases ho : ending.toOutcome with
    | error err =>
      refine ⟨e.note (.requestFailed id method err), quiet_note e rfl, fun t ht => ?_⟩
      simp only [finish, Origin.answer, ho]
      exact reply_via (e := e.note (.requestFailed id method err)) ht ⟨id, .error err⟩
    | ok v =>
      refine ⟨e, .refl e, fun t ht => ?_⟩
      simp only [finish, Origin.answer, ho]
      exact reply_via ht ⟨id, .ok v⟩
  | notification method =>
    cases ho : ending.toOutcome with
    | error err =>
      refine ⟨(e.note (.listenerFailed method err)).countFailed,
        (quiet_note e rfl).trans (quiet_countFailed _), fun t _ => ?_⟩
      simp only [finish, Origin.answer, ho]
      rfl
    | ok v =>
      refine ⟨e, .refl e, fun t _ => ?_⟩
      simp only [finish, Origin.answer, ho]
      rfl

theorem handleFrame_of_decode {frame : Frame} {m : Message}
    (h : e.config.codec.decode frame = .ok m) : e.handleFrame frame = e.handle m := by
  rw [Codec.decode] at h
  rw [handleFrame]
  cases hv : e.config.codec.decodeValue frame with
  | error err =>
    rw [hv] at h
    cases h
  | ok v =>
    rw [hv] at h
    simp only at h
    simp only [h]

theorem origin_notificationJobs {n : Notification} {j : Job} (h : j ∈ e.notificationJobs n) :
    j.origin = .notification n.method := by
  obtain ⟨_, -, rfl⟩ := List.mem_map.mp h
  rfl

theorem handle_notification_via (e : Endpoint) (n : Notification) :
    ∃ e', e.Quiet e' ∧ ∀ t : Transport,
      (e.via t).handle (.notification n) = (e'.via t, e.notificationJobs n) := by
  have jobs : ∀ t, (e.via t).notificationJobs n = e.notificationJobs n := fun _ => rfl
  cases hj : e.notificationJobs n with
  | nil =>
    refine ⟨(e.note (.noListener n.method)).countUnhandled,
      (quiet_note e rfl).trans (quiet_countUnhandled _), fun t => ?_⟩
    simp only [handle, dispatchNotification, jobs, hj]
    rfl
  | cons job more =>
    refine ⟨e, .refl e, fun t => ?_⟩
    simp only [handle, dispatchNotification, jobs, hj]

theorem handle_refused_via (e : Endpoint) {r : Request} {err : RpcError}
    (h : r.refusal? e.registry.requests = some err) :
    ∃ e', e.Quiet e' ∧ ∀ t : Transport, t.IsOpen →
      (e.via t).handle (.request r) =
        (e'.via (t.pushAll [.response ⟨r.id, .error err⟩]), e.notificationJobs r.asNotification) := by
  have jobs : ∀ t, (e.via t).notificationJobs r.asNotification =
    e.notificationJobs r.asNotification := fun _ => rfl
  rw [Request.refusal?] at h
  split at h
  · rename_i empty
    refine ⟨e, .refl e, fun t ht => ?_⟩
    simp only [handle, dispatchRequest, jobs, empty, if_true, reply_via ht, ← Option.some.inj h,
      List.append_nil]
  · rename_i named
    split at h
    · rename_i none
      refine ⟨e.note (.noHandler r.method), quiet_note e rfl, fun t ht => ?_⟩
      have absent : (e.via t).registry.requestHandler? r.method = .none := none
      have replied := reply_via (e := e.note (.noHandler r.method)) ht
        ⟨r.id, .error (.methodNotFound r.method)⟩
      simp only [handle, dispatchRequest, jobs, named, absent, ← Option.some.inj h,
        List.append_nil, Bool.false_eq_true, if_false]
      exact congrArg (·, _) replied
    · cases h

theorem handle_started_via (e : Endpoint) {r : Request}
    (h : r.refusal? e.registry.requests = none) :
    ∃ handler, Fields.get? r.method e.registry.requests = some handler ∧ ∀ t : Transport,
      (e.via t).handle (.request r) =
        (e.via t, e.notificationJobs r.asNotification ++ [r.job handler]) := by
  have jobs : ∀ t, (e.via t).notificationJobs r.asNotification =
    e.notificationJobs r.asNotification := fun _ => rfl
  rw [Request.refusal?] at h
  split at h
  · cases h
  · rename_i named
    split at h
    · cases h
    · rename_i handler found
      refine ⟨handler, found, fun t => ?_⟩
      have there : (e.via t).registry.requestHandler? r.method = some handler := found
      simp only [handle, dispatchRequest, jobs, named, there, Bool.false_eq_true, if_false]
      rfl

theorem handle_response_via (e : Endpoint) (r : Response) (t : Transport) :
    (e.via t).handle (.response r) = ((e.takeResponse r).via t, []) := by
  cases hf : e.pool.find? r.id with
  | none => simp only [handle, takeResponse_of_find?_none (e := e.via t) hf,
      takeResponse_of_find?_none hf]; rfl
  | some p => simp only [handle, takeResponse_of_find? (e := e.via t) hf,
      takeResponse_of_find? hf]; rfl

end Endpoint

end DuplexRpc

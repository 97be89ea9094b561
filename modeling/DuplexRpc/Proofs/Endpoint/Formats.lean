import DuplexRpc.Proofs.Codec
import DuplexRpc.Proofs.Endpoint.Deed

/-! An endpoint reacts to a value, not to the wire format that carried it. The check for blank frames
is the one place where the bytes themselves count: an integer of one MessagePack byte may be blank,
and then it is reported as an empty message. But no number is a message, so nothing else shows it. -/

namespace DuplexRpc

open Text

namespace Transport

/-- Posts a message if it can be posted. -/
def offer (t : Transport) (m : Message) : Transport :=
  match t.post m with
  | .ok t => t
  | .error _ => t

def offerAll (t : Transport) (ms : List Message) : Transport :=
  ms.foldl offer t

end Transport

/-! ### Frames of objects -/

namespace Codec

/-- No object is carried by a blank frame. -/
theorem isBlankFrame_write_obj (codec : Codec) {fields : List (String × Value)}
    (short : fields.length < lengthLimit) : isBlankFrame (codec.write (.obj fields)) = false := by
  cases codec with
  | json =>
    cases fields with
    | nil => rfl
    | cons entry rest => exact isBlankFrame_cons rfl _
  | messagePack =>
    rw [write, MessagePack.write, MessagePack.writeMapHead]
    split
    · rename_i small
      refine isBlankFrame_cons ?_ _
      generalize fields.length = n at small
      revert n
      decide
    · split <;> exact isBlankFrame_cons rfl _

/-- The integer 9 is one byte in MessagePack, and this byte is white space. -/
example : isBlankFrame (Codec.messagePack.write (.ofInt64 9)) = true := by decide

end Codec

/-! ### Endpoints that differ in format and transport -/

namespace Endpoint

/-- Two endpoints that differ in their configurations, transports and reports at most. -/
structure Alike (e e' : Endpoint) : Prop where
  registry : e'.registry = e.registry
  ids : e'.ids = e.ids
  pool : e'.pool = e.pool
  supervisor : e'.supervisor = e.supervisor
  counters : e'.counters = e.counters

/-- The endpoint with another format and another transport. -/
def speaking (e : Endpoint) (codec : Codec) (t : Transport) : Endpoint :=
  { e with config := { e.config with codec }, transport := t }

variable {e e' e'' : Endpoint}

theorem Alike.refl (e : Endpoint) : e.Alike e :=
  ⟨rfl, rfl, rfl, rfl, rfl⟩

theorem Alike.symm (h : e.Alike e') : e'.Alike e :=
  ⟨h.registry.symm, h.ids.symm, h.pool.symm, h.supervisor.symm, h.counters.symm⟩

theorem Alike.trans (h : e.Alike e') (h' : e'.Alike e'') : e.Alike e'' where
  registry := h'.registry.trans h.registry
  ids := h'.ids.trans h.ids
  pool := h'.pool.trans h.pool
  supervisor := h'.supervisor.trans h.supervisor
  counters := h'.counters.trans h.counters

theorem alike_speaking (e : Endpoint) (codec : Codec) (t : Transport) : e.Alike (e.speaking codec t) :=
  ⟨rfl, rfl, rfl, rfl, rfl⟩

theorem alike_note (e : Endpoint) (n : Note) : e.Alike (e.note n) :=
  ⟨rfl, rfl, rfl, rfl, rfl⟩

theorem alike_reply (e : Endpoint) (r : Response) : e.Alike (e.reply r) := by
  rw [reply]
  cases e.transport.post (.response r) with
  | ok t => exact ⟨rfl, rfl, rfl, rfl, rfl⟩
  | error err => exact alike_note e _

theorem transport_reply (e : Endpoint) (r : Response) :
    (e.reply r).transport = e.transport.offer (.response r) := by
  rw [reply, Transport.offer]
  cases e.transport.post (.response r) <;> rfl

/-! ### Reactions to messages -/

theorem Alike.notificationJobs (h : e.Alike e') (n : Notification) :
    e'.notificationJobs n = e.notificationJobs n := by
  rw [Endpoint.notificationJobs, Endpoint.notificationJobs, h.registry]

theorem Alike.countUnhandled (h : e.Alike e') : e.countUnhandled.Alike e'.countUnhandled :=
  { h with counters := by rw [Endpoint.countUnhandled, Endpoint.countUnhandled, h.counters] }

theorem Alike.countUnmatched (h : e.Alike e') : e.countUnmatched.Alike e'.countUnmatched :=
  { h with counters := by rw [Endpoint.countUnmatched, Endpoint.countUnmatched, h.counters] }

theorem Alike.takeResponse (h : e.Alike e') (r : Response) :
    (e.takeResponse r).Alike (e'.takeResponse r) := by
  cases found : e.pool.find? r.id with
  | some p =>
    rw [takeResponse_of_find? found, takeResponse_of_find? (h.pool ▸ found)]
    exact { h with pool := congrArg (PendingPool.close · p (.filled r.result)) h.pool }
  | none =>
    rw [takeResponse_of_find?_none found, takeResponse_of_find?_none (h.pool ▸ found)]
    exact Alike.countUnmatched ⟨h.registry, h.ids, h.pool, h.supervisor, h.counters⟩

end Endpoint

/-- What is posted at once in return for a message: the error of a request that has no method or no
handler. -/
def Message.replies (handlers : List (String × Handler)) : Message → List Message
  | .request r => ((r.refusal? handlers).map fun err => .response ⟨r.id, .error err⟩).toList
  | _ => []

namespace Endpoint

variable {e e' : Endpoint}

/-- The end of a request that starts no handler, and the jobs of one that does. -/
theorem dispatchRequest_eq (e : Endpoint) (r : Request) :
    (∃ err before, r.refusal? e.registry.requests = some err ∧ e.Alike before ∧
        before.transport = e.transport ∧
        e.dispatchRequest r = (before.reply ⟨r.id, .error err⟩, [])) ∨
      ∃ handler, r.refusal? e.registry.requests = none ∧
        e.registry.requestHandler? r.method = some handler ∧
        e.dispatchRequest r = (e, [r.job handler]) := by
  rw [dispatchRequest, Request.refusal?]
  by_cases empty : r.method.isEmpty = true
  · rw [if_pos empty, if_pos empty]
    exact Or.inl ⟨_, e, rfl, .refl e, rfl, rfl⟩
  · rw [if_neg empty, if_neg empty]
    cases found : e.registry.requestHandler? r.method with
    | none =>
      rw [Registry.requestHandler?] at found
      rw [found]
      exact Or.inl ⟨_, e.note (.noHandler r.method), rfl, alike_note e _, rfl, rfl⟩
    | some handler =>
      have there := found
      rw [Registry.requestHandler?] at there
      rw [there]
      exact Or.inr ⟨handler, rfl, rfl, rfl⟩

theorem transport_handle (e : Endpoint) (m : Message) :
    (e.handle m).1.transport = e.transport.offerAll (m.replies e.registry.requests) := by
  cases m with
  | notification n =>
    rw [handle, dispatchNotification]
    split <;> rfl
  | request r =>
    rw [handle, Message.replies]
    rcases e.dispatchRequest_eq r with ⟨err, before, refused, -, same, dispatched⟩ |
      ⟨handler, accepted, -, dispatched⟩
    · rw [dispatched, refused]
      exact (transport_reply before _).trans (congrArg (Transport.offer · _) same)
    · rw [dispatched, accepted]
      rfl
  | response r =>
    rw [handle]
    cases found : e.pool.find? r.id with
    | some p => rw [takeResponse_of_find? found]; rfl
    | none => rw [takeResponse_of_find?_none found]; rfl

/-- Endpoints alike stay alike under every message, and start the same handlers. -/
theorem Alike.handle (h : e.Alike e') (m : Message) :
    (e.handle m).1.Alike (e'.handle m).1 ∧ (e'.handle m).2 = (e.handle m).2 := by
  cases m with
  | notification n =>
    rw [Endpoint.handle, Endpoint.handle, dispatchNotification, dispatchNotification,
      h.notificationJobs]
    split
    · refine ⟨Alike.countUnhandled ?_, rfl⟩
      exact (alike_note e _).symm.trans (h.trans (alike_note e' _))
    · exact ⟨h, rfl⟩
  | request r =>
    rw [Endpoint.handle, Endpoint.handle, h.notificationJobs]
    have there := h.registry
    rcases e.dispatchRequest_eq r with ⟨err, before, refused, alike, -, dispatched⟩ |
        ⟨handler, accepted, found, dispatched⟩ <;>
      rcases e'.dispatchRequest_eq r with ⟨err', before', refused', alike', -, dispatched'⟩ |
        ⟨handler', accepted', found', dispatched'⟩
    · rw [dispatched, dispatched']
      refine ⟨?_, rfl⟩
      have left := alike.trans (alike_reply before ⟨r.id, .error err⟩)
      have right := alike'.trans (alike_reply before' ⟨r.id, .error err'⟩)
      exact left.symm.trans (h.trans right)
    · rw [there, refused] at accepted'
      cases accepted'
    · rw [there, accepted] at refused'
      cases refused'
    · rw [there, found] at found'
      rw [dispatched, dispatched', Option.some.inj found']
      exact ⟨h, rfl⟩
  | response r => exact ⟨h.takeResponse r, rfl⟩

/-! ### Reactions to values -/

/-- What an endpoint makes of the value that a frame carried. -/
def react (e : Endpoint) (v : Value) : Endpoint × List Job :=
  match Message.ofValue v with
  | .ok m => e.handle m
  | .error err =>
    match Message.requestId? v with
    | some id => ((e.note (.invalid err)).reply ⟨id, .error err⟩, [])
    | none => (e.note (.invalid err), [])

end Endpoint

/-- What is posted at once in return for a value. -/
def Value.replies (handlers : List (String × Handler)) (v : Value) : List Message :=
  match Message.ofValue v with
  | .ok m => m.replies handlers
  | .error err => ((Message.requestId? v).map fun id => .response ⟨id, .error err⟩).toList

namespace Endpoint

variable {e e' : Endpoint} {v : Value}

theorem transport_react (e : Endpoint) (v : Value) :
    (e.react v).1.transport = e.transport.offerAll (v.replies e.registry.requests) := by
  rw [react, Value.replies]
  split
  · exact e.transport_handle _
  · cases Message.requestId? v with
    | some id => exact transport_reply _ _
    | none => rfl

theorem Alike.react (h : e.Alike e') (v : Value) :
    (e.react v).1.Alike (e'.react v).1 ∧ (e'.react v).2 = (e.react v).2 := by
  rw [Endpoint.react, Endpoint.react]
  split
  · exact h.handle _
  · rename_i err _
    have noted := (alike_note e (.invalid err)).symm.trans (h.trans (alike_note e' (.invalid err)))
    split
    · exact ⟨(alike_reply _ _).symm.trans (noted.trans (alike_reply _ _)), rfl⟩
    · exact ⟨noted, rfl⟩

theorem handleFrame_of_decodeValue {frame : Frame} (h : e.config.codec.decodeValue frame = .ok v) :
    e.handleFrame frame = e.react v := by
  rw [handleFrame, h]
  rfl

/-- What is no object shows nowhere but in the reports. -/
theorem react_of_not_object (h : ∀ fields, v ≠ .obj fields) :
    ∃ err, e.react v = (e.note (.invalid err), []) := by
  refine ⟨(Rejection.notObject v).toError, ?_⟩
  cases v with
  | obj fields => exact absurd rfl (h fields)
  | _ => rfl

theorem replies_of_not_object (handlers : List (String × Handler)) (h : ∀ fields, v ≠ .obj fields) :
    v.replies handlers = [] := by
  cases v with
  | obj fields => exact absurd rfl (h fields)
  | _ => rfl

/-- A frame makes of an endpoint what the value in it does, reports apart. -/
theorem handleFrame_write (e : Endpoint) (fits : e.config.codec.Fits v)
    (short : v.isShort = true) :
    (e.react v.sorted).1.Alike (e.handleFrame (e.config.codec.write v)).1 ∧
      (e.handleFrame (e.config.codec.write v)).1.transport =
        e.transport.offerAll (v.sorted.replies e.registry.requests) ∧
      (e.handleFrame (e.config.codec.write v)).2 = (e.react v.sorted).2 := by
  have read := Codec.read_write fits
  cases blank : isBlankFrame (e.config.codec.write v) with
  | false =>
    have decoded : e.config.codec.decodeValue (e.config.codec.write v) = .ok v.sorted := by
      rw [Codec.decodeValue, blank, read]
      rfl
    rw [handleFrame_of_decodeValue decoded]
    exact ⟨.refl _, e.transport_react v.sorted, rfl⟩
  | true =>
    have refused : e.config.codec.decodeValue (e.config.codec.write v) =
        .error (.parse "empty message") := by
      rw [Codec.decodeValue, blank]
      rfl
    have other : ∀ fields, v.sorted ≠ .obj fields := by
      intro fields same
      cases v with
      | obj fields' =>
        rw [Value.isShort, Bool.and_eq_true, decide_eq_true_iff] at short
        rw [Codec.isBlankFrame_write_obj _ short.1] at blank
        cases blank
      | _ => cases same
    obtain ⟨err, reacted⟩ := e.react_of_not_object other
    rw [handleFrame, refused, reacted, replies_of_not_object _ other]
    exact ⟨(alike_note e _).symm.trans (alike_note e _), rfl, rfl⟩

/-- Whether a value within the limits of both formats comes as JSON text or as MessagePack bytes, an
endpoint starts the same handlers, posts the same messages, errors in return included, and is left
with the same pool, counters and registry. The transports may differ, and may refuse what is
posted. -/
theorem handleFrame_format_independent (e : Endpoint) {v : Value}
    (fits : ∀ codec : Codec, codec.Fits v) :
    ∃ (posts : List Message) (jobs : List Job) (after : Endpoint), ∀ (codec : Codec) (t : Transport),
      after.Alike ((e.speaking codec t).handleFrame (codec.write v)).1 ∧
        ((e.speaking codec t).handleFrame (codec.write v)).1.transport = t.offerAll posts ∧
        ((e.speaking codec t).handleFrame (codec.write v)).2 = jobs := by
  refine ⟨v.sorted.replies e.registry.requests, (e.react v.sorted).2, (e.react v.sorted).1, ?_⟩
  intro codec t
  obtain ⟨after, posted, started⟩ :=
    (e.speaking codec t).handleFrame_write (fits codec) (fits .messagePack).1
  obtain ⟨alike, jobs⟩ := (e.alike_speaking codec t).react v.sorted
  exact ⟨alike.trans after, posted, started.trans jobs⟩

/-- A request of another version of the protocol, which is answered with an error. -/
def oldRequest : Value :=
  .obj [("method", .str "greet"), ("id", .ofInt64 9), ("jsonrpc", .str "1.0"),
    ("params", .arr [.ofInt64 (-0x8000000000000000)])]

theorem handleFrame_format_independent_old_request :
    (∀ codec : Codec, codec.Fits oldRequest) ∧
      ∃ (posts : List Message) (jobs : List Job) (after : Endpoint),
        ∀ (codec : Codec) (t : Transport),
          let e : Endpoint := .create {} {} (.recorder [] none) none
          after.Alike ((e.speaking codec t).handleFrame (codec.write oldRequest)).1 ∧
            ((e.speaking codec t).handleFrame (codec.write oldRequest)).1.transport =
              t.offerAll posts ∧
            ((e.speaking codec t).handleFrame (codec.write oldRequest)).2 = jobs := by
  have fits : ∀ codec : Codec, codec.Fits oldRequest := by
    intro codec
    cases codec <;> decide
  exact ⟨fits, handleFrame_format_independent _ fits⟩

end Endpoint

end DuplexRpc

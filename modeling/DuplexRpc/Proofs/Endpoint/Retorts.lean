import DuplexRpc.Proofs.Endpoint.Offers
import DuplexRpc.Proofs.Message.Classification
import Mathlib.Data.List.Chain

/-! What an endpoint posts of its own accord in return for a frame, whatever the frame holds: the
answer to a request, or to what looks like one. An answer is read as an answer, if at all, and nothing
is posted in return for it; so two endpoints never keep each other busy. -/

namespace DuplexRpc

open Value

/-! ### Answers that were carried -/

theorem Id.exists_of_resembles {id : Id} {w : Value} (h : id.toValue.Resembles w) :
    ∃ id' : Id, w = id'.toValue := by
  cases id with
  | num n =>
    cases h with
    | int i h => exact ⟨.num (.int i h), rfl⟩
    | float x y h h' => exact ⟨.num (.float y h'), rfl⟩
  | str s =>
    cases h
    exact ⟨.str s, rfl⟩

theorem RpcError.exists_of_resembles {err : RpcError} {w : Value} (h : err.layout.Resembles w) :
    ∃ err' : RpcError, w = err'.layout := by
  obtain ⟨kind, message, data⟩ := err
  rw [layout, entries, ofInt64, Number.ofInt64] at h
  cases data with
  | none =>
    cases h with
    | obj h =>
      cases h with
      | cons _ code h =>
        cases code
        cases h with
        | cons _ text h =>
          cases text
          cases h
          exact ⟨⟨kind, message, none⟩, rfl⟩
  | some v =>
    cases h with
    | obj h =>
      cases h with
      | cons _ code h =>
        cases code
        cases h with
        | cons _ text h =>
          cases text
          cases h with
          | @cons _ v' _ _ _ echo h =>
            cases h
            exact ⟨⟨kind, message, some v'⟩, rfl⟩

theorem Response.exists_of_resembles {r : Response} {w : Value}
    (h : (Message.response r).layout.Resembles w) :
    ∃ r' : Response, w = (Message.response r').layout := by
  obtain ⟨id, result⟩ := r
  cases h with
  | obj h =>
    cases h with
    | cons _ version h =>
      cases version
      cases h with
      | cons _ number h =>
        obtain ⟨id', rfl⟩ := Id.exists_of_resembles number
        cases result with
        | ok v =>
          cases h with
          | @cons _ v' _ _ _ echo h =>
            cases h
            exact ⟨⟨id', .ok v'⟩, rfl⟩
        | error err =>
          cases h with
          | cons _ echo h =>
            obtain ⟨err', rfl⟩ := RpcError.exists_of_resembles echo
            cases h
            exact ⟨⟨id', .error err'⟩, rfl⟩

/-- A message can be written in a format: MessagePack has limits, and JSON text has none, where only the
reader refuses what stands too deep. -/
def Codec.Holds (codec : Codec) (m : Message) : Prop :=
  codec = .messagePack → codec.Fits m.layout

theorem Response.ofValue_layout (r : Response) :
    Message.ofValue (Message.response r).layout.sorted = .ok (.response r.carried) := by
  rw [Message.ofValue, Message.ofValue?_layout]
  rfl

/-- An answer within the limits of a format is read as an answer, in which nothing but binary64 numbers
can differ. -/
theorem Codec.exists_decode_response {codec : Codec} {r : Response}
    (carries : codec.Carries (Message.response r).layout) :
    ∃ r', (Message.response r).layout.Resembles (Message.response r').layout ∧
      codec.decode (codec.encode (.response r)) = .ok (.response r'.carried) := by
  obtain ⟨v, echo, found⟩ := exists_decodeValue_encode carries
  obtain ⟨r', rfl⟩ := Response.exists_of_resembles echo
  refine ⟨r', echo, ?_⟩
  rw [decode, found]
  exact r'.ofValue_layout

/-- An answer is read as an answer, if its frame can be read. -/
theorem Codec.exists_response {codec : Codec} {r : Response} {v : Value}
    (holds : codec.Holds (.response r))
    (read : codec.decodeValue (codec.encode (.response r)) = .ok v) :
    ∃ r', Message.ofValue v = .ok (.response r') := by
  cases codec with
  | json =>
    rw [decodeValue, isBlankFrame_encode, if_neg Bool.false_ne_true, encode, Codec.read,
      Codec.write] at read
    cases parsed : Json.parse (Json.write (Message.response r).layout) with
    | error e =>
      rw [parsed] at read
      cases read
    | ok w =>
      rw [parsed] at read
      obtain rfl : w = v := Except.ok.inj read
      obtain ⟨v', echo, rfl⟩ := Json.exists_of_parse_write parsed
      obtain ⟨r', rfl⟩ := r.exists_of_resembles echo
      exact ⟨_, r'.ofValue_layout⟩
  | messagePack =>
    rw [decodeValue_encode (holds rfl)] at read
    obtain rfl := Except.ok.inj read
    exact ⟨_, r.ofValue_layout⟩

/-! ### What is posted in return -/

theorem Message.requestId?_eq_some {v : Value} {id : Id} : requestId? v = some id ↔
    ∃ fields, v = .obj fields ∧ (Fields.get? "method" fields).isSome = true ∧
      Fields.get? "id" fields = some id.toValue := by
  have isId : ∀ w, Id.ofValue? w = some id ↔ w = id.toValue := by
    intro w
    constructor
    · intro read
      cases w with
      | num n => obtain rfl := Option.some.inj read; rfl
      | str s => obtain rfl := Option.some.inj read; rfl
      | _ => cases read
    · rintro rfl
      exact id.ofValue?_toValue
  cases v with
  | obj fields =>
    rw [requestId?]
    cases method : Fields.get? "method" fields with
    | none => simp [method]
    | some m =>
      cases number : Fields.get? "id" fields with
      | none => simp [number]
      | some w => simp [method, number, isId]
  | _ => simp [requestId?]

/-- A frame holds an object with a method, whatever that is, and with an id. -/
def Codec.IsAddressed (codec : Codec) (frame : Frame) (id : Id) : Prop :=
  ∃ fields, codec.decodeValue frame = .ok (.obj fields) ∧
    (Fields.get? "method" fields).isSome = true ∧ Fields.get? "id" fields = some id.toValue

namespace Endpoint

variable {e f : Endpoint} {frame : Frame} {m : Message} {err : RpcError}

/-- An endpoint posts a message of its own accord in return for a frame, at once or as a handler ends
that the frame started. -/
inductive Provokes (e : Endpoint) (frame : Frame) : Message → Prop
  | atOnce {m : Message} (h : m ∈ e.retorts frame) : Provokes e frame m
  | atEnd {m : Message} {job : Job} (started : job ∈ (e.handleFrame frame).2) (ending : Ending)
      (h : m ∈ job.origin.answer ending) : Provokes e frame m

theorem retorts_of_decode (read : e.config.codec.decode frame = .ok m) :
    e.retorts frame = m.replies e.registry.requests ∧ e.handleFrame frame = e.handle m := by
  rw [Codec.decode] at read
  cases found : e.config.codec.decodeValue frame with
  | error err =>
    rw [found] at read
    cases read
  | ok v =>
    rw [found] at read
    simp only at read
    rw [handleFrame_of_decodeValue found, retorts, found, react, read]
    simp only [Value.replies, read]
    trivial

theorem isAddressed_iff {codec : Codec} {v : Value} {id : Id}
    (found : codec.decodeValue frame = .ok v) :
    codec.IsAddressed frame id ↔ Message.requestId? v = some id := by
  rw [Message.requestId?_eq_some, Codec.IsAddressed, found]
  constructor
  · rintro ⟨fields, same, there⟩
    exact ⟨fields, Except.ok.inj same, there⟩
  · rintro ⟨fields, rfl, there⟩
    exact ⟨fields, rfl, there⟩

/-- A frame that holds no message starts nothing, and is answered where it is addressed. -/
theorem retorts_of_invalid (invalid : e.config.codec.decode frame = .error err) :
    e.Alike (e.handleFrame frame).1 ∧ (e.handleFrame frame).2 = [] ∧
      (∀ id, e.retorts frame = [.response ⟨id, .error err⟩] ↔
        e.config.codec.IsAddressed frame id) ∧
      (e.retorts frame = [] ↔ ∀ id, ¬ e.config.codec.IsAddressed frame id) := by
  rw [Codec.decode] at invalid
  cases found : e.config.codec.decodeValue frame with
  | error err' =>
    have unread : ∀ id, ¬ e.config.codec.IsAddressed frame id := by
      rintro id ⟨fields, same, -⟩
      rw [found] at same
      cases same
    rw [handleFrame, retorts, found]
    exact ⟨alike_note e _, rfl, fun id => iff_of_false (List.cons_ne_nil _ _).symm (unread id),
      iff_of_true rfl unread⟩
  | ok v =>
    rw [found] at invalid
    simp only at invalid
    rw [handleFrame_of_decodeValue found, react, invalid]
    simp only [retorts, found, Value.replies, invalid, isAddressed_iff found]
    cases Message.requestId? v with
    | none => exact ⟨alike_note e _, rfl, fun id => by simp, by simp⟩
    | some id' =>
      exact ⟨(alike_note e _).trans (alike_reply _ _), rfl, fun id => by simp, by simp⟩

theorem not_provokes_of_answer (read : e.config.codec.decode frame = .ok m)
    (other : ∀ r, m ≠ .request r) (m' : Message) : ¬ e.Provokes frame m' := by
  obtain ⟨retorts, handled⟩ := retorts_of_decode read
  intro provoked
  cases provoked with
  | atOnce h =>
    rw [retorts] at h
    cases m with
    | request r => exact other r rfl
    | _ => cases h
  | atEnd started ending h =>
    rw [handled] at started
    cases m with
    | request r => exact other r rfl
    | response r => cases started
    | notification n =>
      rw [handle, dispatchNotification] at started
      split at started
      · cases started
      · rw [origin_notificationJobs started] at h
        cases h

/-- What an endpoint posts of its own accord are answers. -/
theorem Provokes.exists_response (h : e.Provokes frame m) : ∃ r, m = .response r := by
  cases h with
  | atOnce h =>
    rw [retorts] at h
    split at h
    · rename_i v _
      rw [Value.replies] at h
      split at h
      · rename_i found _
        cases found with
        | request r =>
          rw [Message.replies, Option.mem_toList, Option.map_eq_some_iff] at h
          obtain ⟨err, -, rfl⟩ := h
          exact ⟨_, rfl⟩
        | _ => cases h
      · rw [Option.mem_toList, Option.map_eq_some_iff] at h
        obtain ⟨id, -, rfl⟩ := h
        exact ⟨_, rfl⟩
    · cases h
  | @atEnd job started ending h =>
    cases origin : job.origin with
    | request id method =>
      rw [origin, Origin.answer, List.mem_singleton] at h
      exact ⟨_, h⟩
    | notification method =>
      rw [origin, Origin.answer] at h
      cases h

/-- A frame that is read as an answer, if at all, starts nothing and provokes nothing. -/
theorem quiet_of_response
    (reads : ∀ v, e.config.codec.decodeValue frame = .ok v →
      ∃ r, Message.ofValue v = .ok (.response r)) :
    (e.handleFrame frame).2 = [] ∧ (e.handleFrame frame).1.transport = e.transport ∧
      ∀ m, ¬ e.Provokes frame m := by
  have quiet : (e.handleFrame frame).2 = [] ∧ e.retorts frame = [] := by
    rw [handleFrame, retorts]
    cases found : e.config.codec.decodeValue frame with
    | error err => exact ⟨rfl, rfl⟩
    | ok v =>
      obtain ⟨r, read⟩ := reads v found
      simp only [read, Value.replies]
      exact ⟨rfl, rfl⟩
  obtain ⟨idle, silent⟩ := quiet
  refine ⟨idle, by rw [transport_handleFrame, silent]; rfl, fun m provoked => ?_⟩
  cases provoked with
  | atOnce h =>
    rw [silent] at h
    cases h
  | atEnd started =>
    rw [idle] at started
    cases started

/-- Messages of which each is posted in return for the one before, by an endpoint of the same format in
any state. -/
def Exchange (codec : Codec) : List Message → Prop :=
  List.IsChain fun m m' =>
    codec.Holds m ∧ ∃ f : Endpoint, f.config.codec = codec ∧ f.Provokes (codec.encode m) m'

/-- What comes of a frame at an endpoint. -/
structure Reacts (e : Endpoint) (frame : Frame) : Prop where
  posted : (e.handleFrame frame).1.transport = e.transport.offerAll (e.retorts frame)
  ended : ∀ job ∈ (e.handleFrame frame).2, ∀ (later : Endpoint) (ending : Ending),
    (later.finish job.origin ending).transport =
      later.transport.offerAll (job.origin.answer ending)
  /-- What is no message changes nothing and starts no handler. It is answered with the error where it
  has a method, whatever that is, and an id, and to nobody else. -/
  invalid : ∀ err, e.config.codec.decode frame = .error err →
    e.Alike (e.handleFrame frame).1 ∧ (e.handleFrame frame).2 = [] ∧
      (∀ id, e.retorts frame = [.response ⟨id, .error err⟩] ↔
        e.config.codec.IsAddressed frame id) ∧
      (e.retorts frame = [] ↔ ∀ id, ¬ e.config.codec.IsAddressed frame id)
  /-- Nothing is posted in return for a notification or an answer. -/
  silent : ∀ m, e.config.codec.decode frame = .ok m → (∀ r, m ≠ .request r) →
    ∀ m', ¬ e.Provokes frame m'
  /-- What is posted is an answer. -/
  answer : ∀ m, e.Provokes frame m → ∃ r, m = .response r
  /-- Within the limits of the format the other side reads it as an answer, in which nothing but the
  binary64 numbers of JSON text can differ, -/
  read : ∀ m, e.Provokes frame m → e.config.codec.Carries m.layout →
    ∃ r, m.layout.Resembles (Message.response r).layout ∧
      e.config.codec.decode (e.config.codec.encode m) = .ok (.response r.carried)
  /-- and which is the same answer where the format carries all its numbers exactly. -/
  kept : ∀ m, e.Provokes frame m → e.config.codec.Fits m.layout →
    ∃ r : Response, m = .response r ∧
      e.config.codec.decode (e.config.codec.encode m) = .ok (.response r.carried)
  /-- Past the limits of JSON text it is read as an answer, or its frame is not read at all. -/
  unread : ∀ m, e.Provokes frame m → e.config.codec.Holds m →
    ∀ v, e.config.codec.decodeValue (e.config.codec.encode m) = .ok v →
      ∃ r, Message.ofValue v = .ok (.response r)
  /-- The other side starts nothing and posts nothing in return for it. -/
  last : ∀ m, e.Provokes frame m → e.config.codec.Holds m →
    ∀ f : Endpoint, f.config.codec = e.config.codec →
      (f.handleFrame (e.config.codec.encode m)).2 = [] ∧
        (f.handleFrame (e.config.codec.encode m)).1.transport = f.transport ∧
        ∀ m', ¬ f.Provokes (e.config.codec.encode m) m'
  /-- So an exchange of such messages is over with the first one. -/
  exchange : ∀ m rest, e.Provokes frame m → Exchange e.config.codec (m :: rest) → rest = []

theorem Provokes.last (h : e.Provokes frame m) (holds : e.config.codec.Holds m)
    (same : f.config.codec = e.config.codec) :
    (f.handleFrame (e.config.codec.encode m)).2 = [] ∧
      (f.handleFrame (e.config.codec.encode m)).1.transport = f.transport ∧
      ∀ m', ¬ f.Provokes (e.config.codec.encode m) m' := by
  obtain ⟨r, rfl⟩ := h.exists_response
  rw [← same] at holds ⊢
  exact quiet_of_response fun v read => Codec.exists_response holds read

/-- An endpoint answers what looks like a request, and nothing else; what it posts of its own accord
is never answered in turn. -/
theorem reacts (e : Endpoint) (frame : Frame) : e.Reacts frame where
  posted := transport_handleFrame e frame
  ended job _ later ending := transport_finish later job.origin ending
  invalid _ invalid := retorts_of_invalid invalid
  silent _ read other := not_provokes_of_answer read other
  answer _ h := h.exists_response
  read m h carries := by
    obtain ⟨r, rfl⟩ := h.exists_response
    exact Codec.exists_decode_response carries
  kept m h fits := by
    obtain ⟨r, rfl⟩ := h.exists_response
    exact ⟨r, rfl, Codec.decode_encode fits⟩
  unread m h holds v read := by
    obtain ⟨r, rfl⟩ := h.exists_response
    exact Codec.exists_response holds read
  last _ h holds _ same := h.last holds same
  exchange m rest h chain := by
    cases rest with
    | nil => rfl
    | cons m' rest =>
      obtain ⟨⟨holds, f, same, again⟩, -⟩ := List.isChain_cons_cons.mp chain
      exact absurd again ((h.last holds same).2.2 m')

end Endpoint

end DuplexRpc

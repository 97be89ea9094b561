import DuplexRpc.Proofs.Codec
import DuplexRpc.Proofs.Json.Stable.Value
import DuplexRpc.Proofs.Message.Entrances
import DuplexRpc.Proofs.MessagePack.Stable

/-! A frame that was cut off is no message, whichever way it was cut, and no frame goes on where another
one ends. -/

namespace DuplexRpc.Codec

/-- A message has a frame in a format: MessagePack has room for lengths below 2^32. -/
def CanEncode (codec : Codec) (m : Message) : Prop :=
  codec = .messagePack → m.layout.isShort = true

instance (codec : Codec) (m : Message) : Decidable (codec.CanEncode m) :=
  inferInstanceAs (Decidable (_ → _))

variable {codec : Codec} {m m' : Message} {front back : List UInt8}

/-- Bytes that a frame goes beyond are not read as a value. -/
theorem read_cut (encodes : codec.CanEncode m) (cut : codec.encode m = front ++ back)
    (some : back ≠ []) : ∃ e, codec.read front = .error e := by
  obtain ⟨fields, layout, -⟩ := layout_entries m
  cases codec with
  | json =>
    rw [encode, layout] at cut
    obtain ⟨e, fault⟩ := Json.parse_cut cut some
    exact ⟨_, by rw [read, fault]; rfl⟩
  | messagePack =>
    obtain ⟨e, fault⟩ := MessagePack.parse_cut (encodes rfl) cut some
    exact ⟨_, by rw [read, fault]; rfl⟩

theorem decode_cut (encodes : codec.CanEncode m) (cut : codec.encode m = front ++ back)
    (some : back ≠ []) : ∃ e, codec.decode front = .error e ∧ e.kind = .parseError := by
  cases found : codec.decode front with
  | error e => exact ⟨e, rfl, kind_of_decode found⟩
  | ok m' =>
    obtain ⟨e, fault⟩ := read_cut encodes cut some
    have same := decode_eq_read codec front
    rw [found, fault] at same
    cases same

theorem eq_nil_of_encode_append (encodes : codec.CanEncode m) (encodes' : codec.CanEncode m')
    (more : codec.encode m' = codec.encode m ++ back) : back = [] := by
  obtain ⟨fields, layout, -⟩ := layout_entries m
  cases codec with
  | json =>
    rw [encode, encode, layout] at more
    exact Json.write_append_ne more
  | messagePack => exact MessagePack.write_append_ne (encodes rfl) (encodes' rfl) more

/-- What is left of a frame that was cut off is no message, be it nothing at all. No frame starts with
all of another one. -/
theorem decode_truncated (encodes : codec.CanEncode m) :
    (∀ front, front <+: codec.encode m → front ≠ codec.encode m →
      ∃ e, codec.decode front = .error e ∧ e.kind = .parseError) ∧
    ∀ m', codec.CanEncode m' → codec.encode m <+: codec.encode m' →
      codec.encode m = codec.encode m' := by
  constructor
  · rintro front ⟨back, whole⟩ shorter
    have some : back ≠ [] := by
      rintro rfl
      rw [List.append_nil] at whole
      exact shorter whole
    exact decode_cut encodes whole.symm some
  · rintro m' encodes' ⟨back, whole⟩
    have none := eq_nil_of_encode_append encodes encodes' whole.symm
    rw [none, List.append_nil] at whole
    exact whole

/-- A notification that is cut off inside of its parameters, or within their name. -/
def tick : Message :=
  .notification { method := "tick", params := some (.arr [.null]) }

theorem decode_truncated_tick :
    (∃ e, json.decode ((json.encode tick).take 44) = .error e ∧ e.kind = .parseError) ∧
      ∃ e, messagePack.decode ((messagePack.encode tick).take 30) = .error e ∧
        e.kind = .parseError := by
  have text : json.CanEncode tick := nofun
  have bytes : messagePack.CanEncode tick := by decide
  constructor
  · exact (decode_truncated text).1 _ (List.take_prefix _ _) (by decide)
  · exact (decode_truncated bytes).1 _ (List.take_prefix _ _) (by decide)

end DuplexRpc.Codec

import DuplexRpc.Codec
import DuplexRpc.Proofs.Json.Value
import DuplexRpc.Proofs.Message.Carried
import DuplexRpc.Proofs.MessagePack.Value

/-! A message within the limits of a wire format is decoded as it was encoded, but for the binary64
numbers of JSON text, which may be read as others. -/

namespace DuplexRpc.Codec

open Text

/-- The value is within the limits of the readers of a format: JSON text carries integers alone
exactly, and MessagePack has room for lengths below 2^32. -/
def Fits (codec : Codec) (v : Value) : Prop :=
  match codec with
  | .json => v.isIntegral = true ∧ v.depth ≤ Json.maxDepth
  | .messagePack => v.isShort = true ∧ v.depth ≤ MessagePack.maxDepth

instance (codec : Codec) (v : Value) : Decidable (codec.Fits v) :=
  match codec with
  | .json => inferInstanceAs (Decidable (_ ∧ _))
  | .messagePack => inferInstanceAs (Decidable (_ ∧ _))

/-- The value is within the limits of the readers of a format, whether or not its binary64 numbers are
carried exactly. -/
def Carries (codec : Codec) (v : Value) : Prop :=
  match codec with
  | .json => v.depth ≤ Json.maxDepth
  | .messagePack => v.isShort = true ∧ v.depth ≤ MessagePack.maxDepth

variable {codec : Codec} {v : Value} {m : Message}

theorem read_write (h : codec.Fits v) : codec.read (codec.write v) = .ok v.sorted := by
  cases codec with
  | json =>
    have parsed := Json.parse_write h.1 h.2
    rw [read, write, parsed]
    rfl
  | messagePack =>
    have parsed := MessagePack.parse_write h.1 h.2 []
    rw [List.append_nil] at parsed
    rw [read, write, parsed]
    rfl

theorem exists_read_write (h : codec.Carries v) :
    ∃ v', v.Resembles v' ∧ codec.read (codec.write v) = .ok v'.sorted := by
  cases codec with
  | json =>
    obtain ⟨v', echo, parsed⟩ := Json.exists_parse_write h
    refine ⟨v', echo, ?_⟩
    rw [read, write, parsed]
    rfl
  | messagePack => exact ⟨v, .refl v, read_write h⟩

theorem isBlankFrame_cons {b : UInt8} (h : isBlankByte b = false) (bytes : List UInt8) :
    isBlankFrame (b :: bytes) = false := by
  rw [isBlankFrame, List.all_cons, h, Bool.false_and]

theorem layout_entries (m : Message) :
    ∃ fields, m.layout = .obj (("jsonrpc", .str Message.version) :: fields) ∧ fields.length < 4 := by
  match m with
  | .notification ⟨method, params⟩ =>
    refine ⟨_, rfl, ?_⟩
    cases params <;> exact Nat.le_of_ble_eq_true rfl
  | .request ⟨id, method, params⟩ =>
    refine ⟨_, rfl, ?_⟩
    cases params <;> exact Nat.le_of_ble_eq_true rfl
  | .response ⟨id, result⟩ => exact ⟨_, rfl, Nat.le_of_ble_eq_true rfl⟩

theorem isBlankFrame_encode (codec : Codec) (m : Message) :
    isBlankFrame (codec.encode m) = false := by
  obtain ⟨fields, same, few⟩ := layout_entries m
  rw [encode, same]
  cases codec with
  | json => exact isBlankFrame_cons rfl _
  | messagePack =>
    have small : (("jsonrpc", Value.str Message.version) :: fields).length < 16 := by
      rw [List.length_cons]
      omega
    simp only [write, MessagePack.write, MessagePack.writeMapHead, if_pos small, List.cons_append]
    refine isBlankFrame_cons ?_ _
    rw [List.length_cons]
    generalize fields.length = n at few
    revert n
    decide

theorem exists_decodeValue_encode (h : codec.Carries m.layout) :
    ∃ v, m.layout.Resembles v ∧ codec.decodeValue (codec.encode m) = .ok v.sorted := by
  obtain ⟨v, echo, found⟩ := exists_read_write h
  refine ⟨v, echo, ?_⟩
  rw [decodeValue, isBlankFrame_encode, encode, found]
  rfl

theorem decodeValue_encode (h : codec.Fits m.layout) :
    codec.decodeValue (codec.encode m) = .ok m.layout.sorted := by
  rw [decodeValue, isBlankFrame_encode, encode, read_write h]
  rfl

/-- A message that fits is decoded as it is carried. -/
theorem decode_encode (h : codec.Fits m.layout) : codec.decode (codec.encode m) = .ok m.carried := by
  rw [decode, decodeValue_encode h]
  simp only [Message.ofValue, Message.ofValue?_layout]
  rfl

/-- All messages that fit come back. -/
theorem decodeAll_encodeAll {ms : List Message} (fits : ∀ m ∈ ms, codec.Fits m.layout) :
    ((ms.map codec.encode).filterMap fun frame => (codec.decode frame).toOption) =
      ms.map Message.carried := by
  induction ms with
  | nil => rfl
  | cons m ms ih =>
    rw [List.map_cons, List.filterMap_cons, decode_encode (fits m List.mem_cons_self),
      ih fun m' hm' => fits m' (List.mem_cons_of_mem m hm')]
    rfl

end DuplexRpc.Codec

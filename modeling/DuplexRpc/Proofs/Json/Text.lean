import DuplexRpc.Json.Reader.Text
import DuplexRpc.Json.Writer

/-! Strings that were written are read back, whatever text they hold and whatever follows them. -/

namespace DuplexRpc.Json

open Text

theorem hexDigitValue?_hexDigitByte : ∀ n < 16, hexDigitValue? (hexDigitByte n) = some n := by
  decide

theorem codePointBytes_of_control : ∀ n < 32, codePointBytes n = [UInt8.ofNat n] := by
  decide

/-- A control character without a letter of its own is read from its four digits. -/
theorem readEscape_control {b : UInt8} (h : b < 0x20) (bytes : List UInt8) :
    readEscape (ascii 'u' :: ascii '0' :: ascii '0' :: hexDigitByte (b.toNat / 16) ::
      hexDigitByte (b.toNat % 16) :: bytes) = .ok ([b], bytes) := by
  have small : b.toNat < 32 := h
  have high := hexDigitValue?_hexDigitByte (b.toNat / 16) (by omega)
  have low := hexDigitValue?_hexDigitByte (b.toNat % 16) (by omega)
  have zero : hexDigitValue? (ascii '0') = some 0 := rfl
  have letter : simpleEscape? (ascii 'u') = none := rfl
  have joined : ((0 * 16 + 0) * 16 + b.toNat / 16) * 16 + b.toNat % 16 = b.toNat := by omega
  have unit : readCodeUnit (ascii '0' :: ascii '0' :: hexDigitByte (b.toNat / 16) ::
      hexDigitByte (b.toNat % 16) :: bytes) = .ok (b.toNat, bytes) := by
    simp only [readCodeUnit, zero, high, low, joined]
  rw [readEscape, letter]
  simp only [if_true, unit]
  rw [if_neg (by omega), if_neg (by omega), codePointBytes_of_control _ small, UInt8.ofNat_toNat]

/-- A byte stands for itself between quotes, or is an escape that is read as the byte. -/
theorem escapeByte_cases (b : UInt8) :
    (b ≠ ascii '"' ∧ b ≠ ascii '\\' ∧ ¬ b < 0x20 ∧ escapeByte b = [b]) ∨
      ∃ tail, escapeByte b = ascii '\\' :: tail ∧
        ∀ bytes, readEscape (tail ++ bytes) = .ok ([b], bytes) := by
  unfold escapeByte
  iterate 7
    split
    · rename_i same
      subst same
      exact Or.inr ⟨_, rfl, fun _ => rfl⟩
  split
  · rename_i control
    exact Or.inr ⟨_, rfl, readEscape_control control⟩
  · rename_i quote backslash _ _ _ _ _ control
    exact Or.inl ⟨quote, backslash, control, rfl⟩

theorem readStringBytes_quote (acc bytes : List UInt8) :
    readStringBytes acc (ascii '"' :: bytes) = .ok (acc.reverse, bytes) := by
  rw [readStringBytes, if_pos rfl]

theorem readStringBytes_plain {b : UInt8} (quote : b ≠ ascii '"') (backslash : b ≠ ascii '\\')
    (control : ¬ b < 0x20) (acc bytes : List UInt8) :
    readStringBytes acc (b :: bytes) = readStringBytes (b :: acc) bytes := by
  rw [readStringBytes, if_neg quote, if_neg backslash, if_neg control]

theorem readStringBytes_escape {bytes x rest : List UInt8} (h : readEscape bytes = .ok (x, rest))
    (acc : List UInt8) :
    readStringBytes acc (ascii '\\' :: bytes) = readStringBytes (x.reverse ++ acc) rest := by
  rw [readStringBytes, if_neg (by decide), if_pos rfl]
  split
  · rename_i failed
    rw [h] at failed
    cases failed
  · rename_i read
    rw [h] at read
    obtain ⟨rfl, rfl⟩ := Prod.mk.inj (Except.ok.inj read)
    rfl

theorem readStringBytes_escaped (content acc rest : List UInt8) :
    readStringBytes acc (content.flatMap escapeByte ++ ascii '"' :: rest) =
      .ok (acc.reverse ++ content, rest) := by
  induction content generalizing acc with
  | nil => rw [List.flatMap_nil, List.nil_append, readStringBytes_quote, List.append_nil]
  | cons b content ih =>
    rw [List.flatMap_cons, List.append_assoc]
    obtain ⟨quote, backslash, control, same⟩ | ⟨tail, same, read⟩ := escapeByte_cases b
    · rw [same, List.singleton_append, readStringBytes_plain quote backslash control, ih]
      simp
    · rw [same, List.cons_append, readStringBytes_escape (read _), ih]
      simp

theorem readString_escaped (s : String) (rest : List UInt8) :
    readString ((utf8 s).flatMap escapeByte ++ ascii '"' :: rest) = .ok (s, rest) := by
  rw [readString, readStringBytes_escaped, List.reverse_nil, List.nil_append]
  simp only [ofUtf8_utf8]

theorem writeString_append (s : String) (rest : List UInt8) :
    writeString s ++ rest = ascii '"' :: ((utf8 s).flatMap escapeByte ++ ascii '"' :: rest) := by
  simp [writeString]

end DuplexRpc.Json

import DuplexRpc.Proofs.Json.Number
import DuplexRpc.Text.Blank

/-! Whatever is written is UTF-8: the bytes of a written value are those of its text, so the text is
parsed as the bytes are. -/

namespace DuplexRpc

namespace Text

/-- The bytes are those of some text. -/
def IsUtf8 (bytes : List UInt8) : Prop :=
  ∃ s, utf8 s = bytes

variable {bytes more : List UInt8}

theorem utf8_ofList (cs : List Char) :
    utf8 (String.ofList cs) = cs.flatMap String.utf8EncodeChar := by
  simp [utf8, List.utf8Encode]

theorem isUtf8_utf8 (s : String) : IsUtf8 (utf8 s) :=
  ⟨s, rfl⟩

theorem isUtf8_nil : IsUtf8 [] :=
  ⟨"", rfl⟩

theorem IsUtf8.append (h : IsUtf8 bytes) (h' : IsUtf8 more) : IsUtf8 (bytes ++ more) := by
  obtain ⟨s, rfl⟩ := h
  obtain ⟨t, rfl⟩ := h'
  exact ⟨s ++ t, utf8_append s t⟩

theorem IsUtf8.utf8_ofUtf8D (h : IsUtf8 bytes) : utf8 (ofUtf8D bytes) = bytes := by
  obtain ⟨s, rfl⟩ := h
  rw [ofUtf8D_utf8]

theorem isUtf8_encodeChar (c : Char) : IsUtf8 (String.utf8EncodeChar c) := by
  refine ⟨String.ofList [c], ?_⟩
  rw [utf8_ofList, List.flatMap_cons, List.flatMap_nil, List.append_nil]

theorem isUtf8_flatMap {cs : List Char} {f : Char → List UInt8} (h : ∀ c ∈ cs, IsUtf8 (f c)) :
    IsUtf8 (cs.flatMap f) := by
  induction cs with
  | nil => exact isUtf8_nil
  | cons c cs ih =>
    rw [List.flatMap_cons]
    exact (h c List.mem_cons_self).append (ih fun d hd => h d (List.mem_cons_of_mem c hd))

/-- A character is one byte of ASCII, or bytes beyond ASCII alone. -/
theorem encodeChar_cases (c : Char) :
    (∃ n < 128, String.utf8EncodeChar c = [UInt8.ofNat n]) ∨
      ∀ b ∈ String.utf8EncodeChar c, 128 ≤ b.toNat := by
  unfold String.utf8EncodeChar
  dsimp only
  generalize c.val.toNat = n
  split
  · rename_i small
    exact Or.inl ⟨n, by omega, rfl⟩
  · right
    intro b hb
    split at hb
    · simp only [List.mem_cons, List.not_mem_nil, or_false] at hb
      rcases hb with rfl | rfl <;> (rw [UInt8.toNat_ofNat']; omega)
    · split at hb
      · simp only [List.mem_cons, List.not_mem_nil, or_false] at hb
        rcases hb with rfl | rfl | rfl <;> (rw [UInt8.toNat_ofNat']; omega)
      · simp only [List.mem_cons, List.not_mem_nil, or_false] at hb
        rcases hb with rfl | rfl | rfl | rfl <;> (rw [UInt8.toNat_ofNat']; omega)

theorem encodeChar_ofNat : ∀ n < 128, String.utf8EncodeChar (Char.ofNat n) = [UInt8.ofNat n] := by
  decide

theorem isUtf8_of_ascii (h : bytes.all (· < 128) = true) : IsUtf8 bytes := by
  induction bytes with
  | nil => exact isUtf8_nil
  | cons b bytes ih =>
    rw [List.all_cons, Bool.and_eq_true, decide_eq_true_iff] at h
    have first := isUtf8_encodeChar (Char.ofNat b.toNat)
    rw [encodeChar_ofNat b.toNat h.1, UInt8.ofNat_toNat] at first
    exact first.append (ih h.2)

theorem IsUtf8.cons {b : UInt8} (ascii : b < 128) (h : IsUtf8 bytes) : IsUtf8 (b :: bytes) := by
  have first : IsUtf8 [b] := by
    apply isUtf8_of_ascii
    rw [List.all_cons, List.all_nil, Bool.and_true]
    exact decide_eq_true ascii
  exact first.append h

end Text

namespace Json

open Text

theorem escapeByte_of_ascii :
    ∀ n < 128, (escapeByte (UInt8.ofNat n)).all (· < 128) = true := by
  decide

theorem escapeByte_of_le {b : UInt8} (h : 128 ≤ b.toNat) : escapeByte b = [b] := by
  have ne : ∀ c : UInt8, c.toNat < 128 → b ≠ c := by
    intro c hc same
    subst same
    omega
  have printable : ¬ b < 0x20 := by
    rw [UInt8.lt_iff_toNat_lt]
    exact Nat.not_lt.mpr (Nat.le_trans (by decide) h)
  unfold escapeByte
  rw [if_neg (ne _ (by decide)), if_neg (ne _ (by decide)), if_neg (ne _ (by decide)),
    if_neg (ne _ (by decide)), if_neg (ne _ (by decide)), if_neg (ne _ (by decide)),
    if_neg (ne _ (by decide)), if_neg printable]

theorem flatMap_escapeByte_of_le {bytes : List UInt8} (h : ∀ b ∈ bytes, 128 ≤ b.toNat) :
    bytes.flatMap escapeByte = bytes := by
  induction bytes with
  | nil => rfl
  | cons b bytes ih =>
    rw [List.flatMap_cons, escapeByte_of_le (h b List.mem_cons_self),
      ih fun c hc => h c (List.mem_cons_of_mem b hc)]
    rfl

/-- An escape is ASCII, and what is not escaped stays together with the other bytes of its
character. -/
theorem isUtf8_escaped (s : String) : IsUtf8 ((utf8 s).flatMap escapeByte) := by
  rw [← String.ofList_toList (s := s), utf8_ofList, List.flatMap_assoc]
  apply isUtf8_flatMap
  intro c hc
  rcases encodeChar_cases c with ⟨n, ascii, same⟩ | high
  · rw [same, List.flatMap_singleton]
    exact isUtf8_of_ascii (escapeByte_of_ascii n ascii)
  · rw [flatMap_escapeByte_of_le high]
    exact isUtf8_encodeChar c

theorem isUtf8_writeString (s : String) : IsUtf8 (writeString s) := by
  have quote : IsUtf8 [ascii '"'] := isUtf8_of_ascii (by decide)
  exact ((isUtf8_escaped s).append quote).cons (by decide)

theorem isUtf8_entry (name : String) {bytes : List UInt8} (h : IsUtf8 bytes) :
    IsUtf8 (writeString name ++ ascii ':' :: bytes) :=
  (isUtf8_writeString name).append (h.cons (by decide))

theorem isUtf8_decimalBytes (n : Nat) : IsUtf8 (decimalBytes n) := by
  apply isUtf8_of_ascii
  rw [List.all_eq_true]
  intro b hb
  obtain ⟨-, high⟩ := Bool.and_eq_true_iff.mp (isDigit_decimalBytes n b hb)
  have high : b.toNat ≤ 57 := of_decide_eq_true high
  rw [decide_eq_true_iff, UInt8.lt_iff_toNat_lt]
  exact Nat.lt_of_le_of_lt high (by decide)

theorem isUtf8_writeNumber (n : Number) : IsUtf8 (writeNumber n) := by
  cases n with
  | int i h =>
    rw [writeNumber]
    split
    · exact (isUtf8_decimalBytes _).cons (by decide)
    · exact isUtf8_decimalBytes _
  | float x h => exact isUtf8_utf8 _

mutual

theorem isUtf8_write (v : Value) : IsUtf8 (write v) := by
  match v with
  | .null => exact isUtf8_of_ascii (by decide)
  | .bool true => exact isUtf8_of_ascii (by decide)
  | .bool false => exact isUtf8_of_ascii (by decide)
  | .num n => exact isUtf8_writeNumber n
  | .str s => exact isUtf8_writeString s
  | .arr [] => exact isUtf8_of_ascii (by decide)
  | .arr (v :: vs) =>
    rw [write]
    exact ((isUtf8_write v).append (isUtf8_writeItems vs)).cons (by decide)
  | .obj [] => exact isUtf8_of_ascii (by decide)
  | .obj ((name, v) :: fs) =>
    rw [write]
    exact (isUtf8_entry name ((isUtf8_write v).append (isUtf8_writeEntries fs))).cons (by decide)

theorem isUtf8_writeItems (vs : List Value) : IsUtf8 (writeItems vs) := by
  match vs with
  | [] => exact isUtf8_of_ascii (by decide)
  | v :: vs =>
    rw [writeItems]
    exact ((isUtf8_write v).append (isUtf8_writeItems vs)).cons (by decide)

theorem isUtf8_writeEntries (fs : List (String × Value)) : IsUtf8 (writeEntries fs) := by
  match fs with
  | [] => exact isUtf8_of_ascii (by decide)
  | (name, v) :: fs =>
    rw [writeEntries]
    exact (isUtf8_entry name ((isUtf8_write v).append (isUtf8_writeEntries fs))).cons (by decide)

end

/-- The text of a value has the bytes that were written. -/
theorem utf8_text (v : Value) : utf8 (text v) = write v :=
  (isUtf8_write v).utf8_ofUtf8D

/-- The text of an object starts with a brace, so it is not blank. -/
theorem isBlankText_obj (fields : List (String × Value)) :
    isBlankText (text (.obj fields)) = false := by
  have tail : ∃ bytes, IsUtf8 bytes ∧ write (.obj fields) = ascii '\x7b' :: bytes := by
    match fields with
    | [] => exact ⟨_, isUtf8_of_ascii (by decide), rfl⟩
    | (name, v) :: fs =>
      exact ⟨_, isUtf8_entry name ((isUtf8_write v).append (isUtf8_writeEntries fs)), rfl⟩
  obtain ⟨_, ⟨s, rfl⟩, same⟩ := tail
  have brace : ascii '\x7b' :: utf8 s = utf8 ("\x7b" ++ s) := by
    rw [utf8_append]
    rfl
  rw [text, same, brace, ofUtf8D_utf8, isBlankText, String.toList_append]
  rfl

end Json

end DuplexRpc

/-!
UTF-8: the bytes of a text, and bytes read as a text. A reading that fails says how many bytes were
good and how long the faulty sequence after them is.
-/

namespace DuplexRpc.Text

/-- The UTF-8 bytes of a text. -/
def utf8 (s : String) : List UInt8 :=
  s.toByteArray.data.toList

/-- Where bytes stop being UTF-8. The first `start` bytes are good. `length` is the number of bytes
after them that no text can hold there, or none where the bytes end inside a character. -/
structure Utf8Fault where
  start : Nat
  length : Option Nat
deriving DecidableEq, Repr

/-- The description of a fault, with its place counted from zero. -/
def Utf8Fault.message (f : Utf8Fault) : String :=
  match f.length with
  | some n => s!"invalid utf-8 sequence of {n} bytes from index {f.start}"
  | none => s!"incomplete utf-8 byte sequence from index {f.start}"

/-- The range of the second byte of a character that starts with `lead`, and how many bytes follow
the second. None where no character starts with `lead`. -/
def leadRange (lead : UInt8) : Option (UInt8 × UInt8 × Nat) :=
  if 0xC2 ≤ lead ∧ lead ≤ 0xDF then some (0x80, 0xBF, 0)
  else if lead = 0xE0 then some (0xA0, 0xBF, 1)
  else if lead = 0xED then some (0x80, 0x9F, 1)
  else if 0xE1 ≤ lead ∧ lead ≤ 0xEF then some (0x80, 0xBF, 1)
  else if lead = 0xF0 then some (0x90, 0xBF, 2)
  else if lead = 0xF4 then some (0x80, 0x8F, 2)
  else if 0xF1 ≤ lead ∧ lead ≤ 0xF3 then some (0x80, 0xBF, 2)
  else none

/-- Skips `n` continuation bytes, of which `seen` bytes of the same character precede. -/
def skipContinuation (start seen : Nat) : Nat → List UInt8 → Except Utf8Fault (List UInt8)
  | 0, bytes => .ok bytes
  | _ + 1, [] => .error ⟨start, none⟩
  | n + 1, b :: bytes =>
    if 0x80 ≤ b ∧ b ≤ 0xBF then skipContinuation start (seen + 1) n bytes
    else .error ⟨start, some seen⟩

theorem skipContinuation_length {start seen n : Nat} {bytes rest : List UInt8}
    (h : skipContinuation start seen n bytes = .ok rest) : rest.length ≤ bytes.length := by
  induction n generalizing seen bytes with
  | zero => simp only [skipContinuation, Except.ok.injEq] at h; subst h; exact Nat.le_refl _
  | succ n ih =>
    cases bytes with
    | nil => simp [skipContinuation] at h
    | cons b bytes =>
      simp only [skipContinuation] at h
      split at h
      · exact Nat.le_succ_of_le (ih h)
      · simp at h

/-- Skips one character at place `start`. -/
def skipChar (start : Nat) (lead : UInt8) (bytes : List UInt8) : Except Utf8Fault (List UInt8) :=
  if lead < 0x80 then .ok bytes
  else match leadRange lead with
    | none => .error ⟨start, some 1⟩
    | some (low, high, more) =>
      match bytes with
      | [] => .error ⟨start, none⟩
      | b :: bytes =>
        if low ≤ b ∧ b ≤ high then skipContinuation start 2 more bytes
        else .error ⟨start, some 1⟩

theorem skipChar_length {start : Nat} {lead : UInt8} {bytes rest : List UInt8}
    (h : skipChar start lead bytes = .ok rest) : rest.length ≤ bytes.length := by
  unfold skipChar at h
  split at h
  · simp only [Except.ok.injEq] at h; subst h; exact Nat.le_refl _
  · split at h
    · simp at h
    · split at h
      · simp at h
      · split at h
        · exact Nat.le_succ_of_le (skipContinuation_length h)
        · simp at h

/-- The first fault of bytes that are no text, `start` good bytes before them. -/
def firstFault (start : Nat) : List UInt8 → Option Utf8Fault
  | [] => none
  | lead :: bytes =>
    match h : skipChar start lead bytes with
    | .error fault => some fault
    | .ok rest => firstFault (start + 1 + (bytes.length - rest.length)) rest
termination_by bytes => bytes.length
decreasing_by
  have := skipChar_length h
  simp only [List.length_cons]
  omega

def ofUtf8 (bytes : List UInt8) : Except Utf8Fault String :=
  match String.fromUTF8? ⟨bytes.toArray⟩ with
  | some s => .ok s
  | none => .error ((firstFault 0 bytes).getD ⟨0, none⟩)

/-- The text of bytes that are known to be UTF-8; other bytes give the empty text. -/
def ofUtf8D (bytes : List UInt8) : String :=
  (String.fromUTF8? ⟨bytes.toArray⟩).getD ""

/-- A text is read back from its bytes. -/
theorem ofUtf8_utf8 (s : String) : ofUtf8 (utf8 s) = .ok s := by
  have h : (⟨(utf8 s).toArray⟩ : ByteArray) = s.toByteArray := rfl
  simp [ofUtf8, h, String.fromUTF8?, s.isValidUTF8, String.fromUTF8]

@[simp] theorem ofUtf8D_utf8 (s : String) : ofUtf8D (utf8 s) = s := by
  have h : (⟨(utf8 s).toArray⟩ : ByteArray) = s.toByteArray := rfl
  simp [ofUtf8D, h, String.fromUTF8?, s.isValidUTF8, String.fromUTF8]

@[simp] theorem utf8_append (s t : String) : utf8 (s ++ t) = utf8 s ++ utf8 t := by
  simp [utf8, String.toByteArray_append]

end DuplexRpc.Text

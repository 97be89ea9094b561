import DuplexRpc.Json.Reader.Number
import DuplexRpc.Json.Writer
import DuplexRpc.Proofs.Value

/-! Integers that were written are read back, where no more of a number follows. -/

namespace DuplexRpc.Json

/-- A number cannot go on with these bytes. -/
def EndsNumber (rest : List UInt8) : Prop :=
  ∀ b ∈ rest.head?, isDigit b = false ∧ b ≠ ascii '.' ∧ b ≠ ascii 'e' ∧ b ≠ ascii 'E'

/-- The number that digits make after `acc`. -/
def digitsValue (acc : Nat) (digits : List UInt8) : Nat :=
  digits.foldl (fun n b => n * 10 + digitValue b) acc

variable {rest : List UInt8}

theorem EndsNumber.startsWithDigit (h : EndsNumber rest) : startsWithDigit rest = false := by
  cases rest with
  | nil => rfl
  | cons b rest => exact (h b rfl).1

/-! ### Digits -/

theorem isDigit_digitByte : ∀ n < 10, isDigit (digitByte n) = true := by
  decide

theorem digitValue_digitByte : ∀ n < 10, digitValue (digitByte n) = n := by
  decide

theorem digitByte_ne_zero : ∀ n < 10, n ≠ 0 → digitByte n ≠ ascii '0' := by
  decide

theorem le_digitsValue (acc : Nat) (digits : List UInt8) : acc ≤ digitsValue acc digits := by
  induction digits generalizing acc with
  | nil => exact Nat.le_refl acc
  | cons b digits ih =>
    have step : acc ≤ acc * 10 + digitValue b := by omega
    exact Nat.le_trans step (ih _)

theorem isDigit_decimalBytes (n : Nat) : ∀ b ∈ decimalBytes n, isDigit b = true := by
  induction n using decimalBytes.induct with
  | case1 n small =>
    rw [decimalBytes, if_pos small]
    intro b hb
    rw [List.mem_singleton.mp hb]
    exact isDigit_digitByte n small
  | case2 n large ih =>
    rw [decimalBytes, if_neg large]
    intro b hb
    rcases List.mem_append.mp hb with hb | hb
    · exact ih b hb
    · rw [List.mem_singleton.mp hb]
      exact isDigit_digitByte _ (Nat.mod_lt n (by decide))

theorem digitsValue_decimalBytes (n : Nat) : digitsValue 0 (decimalBytes n) = n := by
  induction n using decimalBytes.induct with
  | case1 n small =>
    rw [decimalBytes, if_pos small, digitsValue, List.foldl_cons, List.foldl_nil,
      digitValue_digitByte n small]
    omega
  | case2 n large ih =>
    rw [digitsValue] at ih
    rw [decimalBytes, if_neg large, digitsValue, List.foldl_append, ih, List.foldl_cons,
      List.foldl_nil, digitValue_digitByte _ (Nat.mod_lt n (by decide))]
    omega

/-- The digits of a number that is not zero start with one that is not zero. -/
theorem decimalBytes_eq_cons {n : Nat} (h : n ≠ 0) :
    ∃ b digits, decimalBytes n = b :: digits ∧ b ≠ ascii '0' := by
  induction n using decimalBytes.induct with
  | case1 n small =>
    rw [decimalBytes, if_pos small]
    exact ⟨_, _, rfl, digitByte_ne_zero n small h⟩
  | case2 n large ih =>
    obtain ⟨b, digits, same, nonzero⟩ := ih (by omega)
    rw [decimalBytes, if_neg large, same]
    exact ⟨b, digits ++ [digitByte (n % 10)], rfl, nonzero⟩

/-- Digits are all taken where the number they make stays below 2^64. -/
theorem takeDigits_append {acc : Nat} {digits : List UInt8}
    (digital : ∀ b ∈ digits, isDigit b = true) (small : digitsValue acc digits < 0x10000000000000000)
    (ends : startsWithDigit rest = false) :
    takeDigits acc (digits ++ rest) = (digitsValue acc digits, rest) := by
  induction digits generalizing acc with
  | nil =>
    rw [List.nil_append, digitsValue, List.foldl_nil]
    cases rest with
    | nil => rfl
    | cons b rest =>
      have other : isDigit b = false := ends
      rw [takeDigits, if_neg (by simp [other])]
  | cons b digits ih =>
    have first : acc * 10 + digitValue b < 0x10000000000000000 :=
      Nat.lt_of_le_of_lt (le_digitsValue _ digits) small
    rw [List.cons_append, takeDigits, if_pos ⟨digital b List.mem_cons_self, first⟩]
    exact ih (fun c hc => digital c (List.mem_cons_of_mem b hc)) small

/-! ### Literals -/

theorem readShortLiteral_of_ends {n : Number} {negative : Bool} {significand : Nat}
    (h : EndsNumber rest) (literal : integerLiteral negative significand = some n) :
    readShortLiteral negative significand rest = .ok (n, rest) := by
  cases rest with
  | nil => simp only [readShortLiteral, readShortLiteral.finish, literal]
  | cons b rest =>
    obtain ⟨-, point, e, E⟩ := h b rfl
    rw [readShortLiteral, if_neg point, if_neg (not_or.mpr ⟨e, E⟩), readShortLiteral.finish, literal]

/-- Digits before a point or an exponent: a zero alone, or digits that do not start with one. -/
def Whole (digits : List UInt8) : Prop :=
  (∀ b ∈ digits, isDigit b = true) ∧
    (digits = [ascii '0'] ∨ ∃ b more, digits = b :: more ∧ b ≠ ascii '0')

theorem whole_decimalBytes (m : Nat) : Whole (decimalBytes m) := by
  refine ⟨isDigit_decimalBytes m, ?_⟩
  by_cases zero : m = 0
  · subst zero
    rw [decimalBytes, if_pos (by decide)]
    exact .inl rfl
  · exact .inr (decimalBytes_eq_cons zero)

/-- Such digits are all taken where the number they make stays below 2^64. -/
theorem readNumber_whole {digits : List UInt8} {negative : Bool} (h : Whole digits)
    (small : digitsValue 0 digits < 0x10000000000000000) (ends : startsWithDigit rest = false) :
    readNumber negative (digits ++ rest) =
      readShortLiteral negative (digitsValue 0 digits) rest := by
  obtain ⟨digital, rfl | ⟨b, more, rfl, nonzero⟩⟩ := h
  · rw [List.singleton_append, readNumber, if_pos rfl, ends]
    rfl
  · have others : ∀ c ∈ more, isDigit c = true := fun c hc => digital c (List.mem_cons_of_mem b hc)
    rw [digitsValue, List.foldl_cons, Nat.zero_mul, Nat.zero_add, ← digitsValue] at small ⊢
    rw [List.cons_append, readNumber, if_neg nonzero, if_pos (digital b List.mem_cons_self),
      takeDigits_append others small ends]
    simp only [ends, Bool.false_eq_true, if_false]

theorem readNumber_decimalBytes {n : Number} {negative : Bool} {m : Nat}
    (small : m < 0x10000000000000000) (h : EndsNumber rest)
    (literal : integerLiteral negative m = some n) :
    readNumber negative (decimalBytes m ++ rest) = .ok (n, rest) := by
  have value := digitsValue_decimalBytes m
  rw [readNumber_whole (whole_decimalBytes m) (by rwa [value]) h.startsWithDigit, value]
  exact readShortLiteral_of_ends h literal

/-- An integer is written as a minus sign, where it is negative, and the digits of a number that is
read back as the integer. -/
theorem writeNumber_int (i : Int) (h : WireRange i) :
    (∃ m, 0 < m ∧ m < 0x10000000000000000 ∧ integerLiteral true m = some (.int i h) ∧
      writeNumber (.int i h) = ascii '-' :: decimalBytes m) ∨
    ∃ m < 0x10000000000000000, integerLiteral false m = some (.int i h) ∧
      writeNumber (.int i h) = decimalBytes m := by
  by_cases negative : i < 0
  · refine Or.inl ⟨i.natAbs, by omega, by omega, ?_, if_pos negative⟩
    have same : -(i.natAbs : Int) = i := by omega
    rw [integerLiteral, if_pos rfl, if_neg (by omega), same, Number.ofInt?_of_range h]
  · refine Or.inr ⟨i.natAbs, by omega, ?_, if_neg negative⟩
    have same : (i.natAbs : Int) = i := by omega
    rw [integerLiteral, if_neg nofun, same, Number.ofInt?_of_range h]

end DuplexRpc.Json

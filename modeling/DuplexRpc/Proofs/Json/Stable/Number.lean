import DuplexRpc.Proofs.Json.Stable.Basic

/-! A number goes on as long as it can, so it stays as it is only where something is left after it. -/

namespace DuplexRpc.Json

variable {bytes rest : List UInt8}

theorem startsWithDigit_more (h : bytes ≠ []) (more : List UInt8) :
    startsWithDigit (bytes ++ more) = startsWithDigit bytes := by
  cases bytes with
  | nil => exact absurd rfl h
  | cons b bytes => rfl

theorem takeDigits_more {acc s : Nat} (h : takeDigits acc bytes = (s, rest)) (left : rest ≠ [])
    (more : List UInt8) : takeDigits acc (bytes ++ more) = (s, rest ++ more) := by
  induction bytes generalizing acc with
  | nil => exact absurd (Prod.mk.inj h).2.symm left
  | cons b bytes ih =>
    rw [takeDigits] at h
    rw [List.cons_append, takeDigits]
    split at h
    · rename_i digit
      rw [if_pos digit, ih h]
    · rename_i other
      obtain ⟨rfl, rfl⟩ := Prod.mk.inj h
      rw [if_neg other]
      rfl

theorem skipDigits_more (left : skipDigits bytes ≠ []) (more : List UInt8) :
    skipDigits (bytes ++ more) = skipDigits bytes ++ more := by
  induction bytes with
  | nil => exact absurd rfl left
  | cons b bytes ih =>
    rw [skipDigits] at left ⊢
    rw [List.cons_append, skipDigits]
    split at left
    · rename_i digit
      rw [if_pos digit, if_pos digit, ih left]
    · rename_i other
      rw [if_neg other, if_neg other]
      rfl

theorem takeExponent_more {acc e : Nat} {beyond : Bool} (h : takeExponent acc bytes = (e, beyond, rest))
    (left : beyond = true ∨ rest ≠ []) (more : List UInt8) :
    takeExponent acc (bytes ++ more) = (e, beyond, rest ++ more) := by
  induction bytes generalizing acc with
  | nil =>
    obtain ⟨rfl, rfl, rfl⟩ := h
    rcases left with beyond | left
    · cases beyond
    · exact absurd rfl left
  | cons b bytes ih =>
    rw [takeExponent] at h
    rw [List.cons_append, takeExponent]
    split at h
    · rename_i digit
      rw [if_pos digit]
      split at h
      · rename_i low
        rw [if_pos low, ih h]
      · rename_i high
        obtain ⟨rfl, rfl, rfl⟩ := h
        rw [if_neg high]
    · rename_i other
      obtain ⟨rfl, rfl, rfl⟩ := h
      rw [if_neg other]
      rfl

variable {negative : Bool} {significand : Nat} {exponent : Int}

theorem finishDouble_ok {n : Number}
    (h : finishDouble negative significand exponent bytes = .ok (n, rest)) :
    rest = bytes ∧ ∀ other, finishDouble negative significand exponent other = .ok (n, other) := by
  unfold finishDouble at h ⊢
  split at h
  · obtain ⟨rfl, rfl⟩ := Prod.mk.inj (Except.ok.inj h)
    exact ⟨rfl, fun _ => rfl⟩
  · cases h

/-- The sign of an exponent, which raises the number unless it is a minus. -/
def takeSign : List UInt8 → Bool × List UInt8
  | [] => (true, [])
  | b :: rest =>
    if b = ascii '+' then (true, rest)
    else if b = ascii '-' then (false, rest)
    else (true, b :: rest)

theorem takeSign_more (b : UInt8) (bytes more : List UInt8) :
    takeSign (b :: (bytes ++ more)) =
      ((takeSign (b :: bytes)).1, (takeSign (b :: bytes)).2 ++ more) := by
  rw [takeSign, takeSign]
  split
  · rfl
  · split <;> rfl

/-- Reads the digits of an exponent whose sign is known. -/
def readExponentDigits (negative : Bool) (significand : Nat) (exponent : Int) (raises : Bool) :
    Reader Number
  | [] => faultAt .endInValue []
  | b :: rest =>
    if isDigit b then
      match takeExponent (digitValue b) rest with
      | (e, false, rest) =>
        finishDouble negative significand
          (clampExponent (if raises then exponent + e else exponent - e)) rest
      | (_, true, rest) =>
        if significand ≠ 0 ∧ raises = true then faultAt .numberOutOfRange rest
        else finishDouble negative 0 0 (skipDigits rest)
    else faultAt .invalidNumber rest

theorem readExponent_eq (bytes : List UInt8) :
    readExponent negative significand exponent bytes =
      readExponentDigits negative significand exponent (takeSign bytes).1 (takeSign bytes).2 := by
  match bytes with
  | [] => rfl
  | b :: bytes =>
    rw [readExponent, takeSign]
    by_cases plus : b = ascii '+'
    · rw [if_pos plus]
      cases bytes <;> rfl
    rw [if_neg plus]
    by_cases minus : b = ascii '-'
    · rw [if_pos minus]
      cases bytes <;> rfl
    · rw [if_neg minus]
      rfl

theorem inside_readExponentDigits {raises : Bool} :
    StableInside (readExponentDigits negative significand exponent raises) := by
  intro bytes n c rest found more
  cases bytes with
  | nil => cases found
  | cons b bytes =>
    rw [readExponentDigits] at found
    rw [List.cons_append, readExponentDigits]
    by_cases digit : isDigit b = true
    · rw [if_pos digit] at found ⊢
      rcases taken : takeExponent (digitValue b) bytes with ⟨e, _ | _, tail⟩
      · rw [taken] at found
        obtain ⟨left, same⟩ := finishDouble_ok found
        have inside : tail ≠ [] := by
          rw [← left]
          exact List.cons_ne_nil c rest
        rw [takeExponent_more taken (.inr inside), left]
        exact same _
      · rw [taken] at found
        rw [takeExponent_more taken (.inl rfl)]
        simp only at found ⊢
        split at found
        · cases found
        · rename_i fits
          obtain ⟨left, same⟩ := finishDouble_ok found
          have inside : skipDigits tail ≠ [] := by
            rw [← left]
            exact List.cons_ne_nil c rest
          rw [if_neg fits, skipDigits_more inside, left]
          exact same _
    · rw [if_neg digit] at found
      cases found

theorem inside_readExponent : StableInside (readExponent negative significand exponent) := by
  intro bytes n c rest found more
  match bytes with
  | [] => cases found
  | b :: bytes =>
    rw [readExponent_eq] at found
    rw [List.cons_append, readExponent_eq, takeSign_more]
    exact inside_readExponentDigits found more

theorem inside_readExponentIfAny :
    StableInside (readExponentIfAny negative significand exponent) := by
  intro bytes n c rest found more
  match bytes with
  | [] => cases (finishDouble_ok found).1
  | b :: bytes =>
    rw [readExponentIfAny] at found
    rw [List.cons_append, readExponentIfAny]
    by_cases mark : startsWithExponent (b :: bytes) = true
    · have still : startsWithExponent (b :: (bytes ++ more)) = true := mark
      rw [if_pos mark] at found
      rw [if_pos still]
      exact inside_readExponent found more
    · have still : ¬ startsWithExponent (b :: (bytes ++ more)) = true := mark
      rw [if_neg mark] at found
      rw [if_neg still]
      obtain ⟨left, same⟩ := finishDouble_ok found
      rw [left]
      exact same _

theorem inside_readFraction : StableInside (readFraction negative significand exponent) := by
  intro bytes n c rest found more
  rw [readFraction] at found ⊢
  match taken : takeDigits significand bytes with
  | (s, []) =>
    -- Without a byte after its digits the number goes to the end of the bytes.
    rw [taken] at found
    simp only [startsWithDigit, Bool.false_eq_true, if_false] at found
    split at found
    · cases found
    · cases (finishDouble_ok found).1
  | (s, b :: tail) =>
    rw [taken] at found
    rw [takeDigits_more taken (List.cons_ne_nil b tail)]
    simp only [startsWithDigit_more (List.cons_ne_nil b tail), List.length_append,
      Nat.add_sub_add_right] at found ⊢
    by_cases digit : startsWithDigit (b :: tail) = true
    · rw [if_pos digit] at found ⊢
      have inside : skipDigits (b :: tail) ≠ [] := by
        intro none
        rw [none] at found
        cases (finishDouble_ok found).1
      rw [skipDigits_more inside]
      exact inside_readExponentIfAny found more
    · rw [if_neg digit] at found ⊢
      split at found
      · cases found
      · rename_i places
        rw [if_neg places]
        exact inside_readExponentIfAny found more

theorem inside_readAfterDigits :
    StableInside (readAfterDigits negative significand exponent) := by
  intro bytes n c rest found more
  match bytes with
  | [] => cases (finishDouble_ok found).1
  | b :: bytes =>
    rw [readAfterDigits] at found
    rw [List.cons_append, readAfterDigits]
    by_cases point : b = ascii '.'
    · rw [if_pos point] at found ⊢
      exact inside_readFraction found more
    · rw [if_neg point] at found ⊢
      exact inside_readExponentIfAny found more

theorem finish_ok {n : Number}
    (h : readShortLiteral.finish negative significand bytes = .ok (n, rest)) :
    rest = bytes ∧
      ∀ other, readShortLiteral.finish negative significand other = .ok (n, other) := by
  unfold readShortLiteral.finish at h ⊢
  split at h
  · obtain ⟨rfl, rfl⟩ := Prod.mk.inj (Except.ok.inj h)
    exact ⟨rfl, fun _ => rfl⟩
  · cases h

theorem inside_readShortLiteral : StableInside (readShortLiteral negative significand) := by
  intro bytes n c rest found more
  match bytes with
  | [] => cases (finish_ok found).1
  | b :: bytes =>
    rw [readShortLiteral] at found
    rw [List.cons_append, readShortLiteral]
    by_cases point : b = ascii '.'
    · rw [if_pos point] at found ⊢
      exact inside_readFraction found more
    rw [if_neg point] at found ⊢
    by_cases mark : b = ascii 'e' ∨ b = ascii 'E'
    · rw [if_pos mark] at found ⊢
      exact inside_readExponent found more
    · rw [if_neg mark] at found ⊢
      obtain ⟨left, same⟩ := finish_ok found
      rw [left]
      exact same _

/-- A number goes on as long as it can, so it stays as it is where something is left after it. -/
theorem inside_readNumber : StableInside (readNumber negative) := by
  intro bytes n c rest found more
  cases bytes with
  | nil => cases found
  | cons b bytes =>
    rw [readNumber] at found
    rw [List.cons_append, readNumber]
    by_cases zero : b = ascii '0'
    · rw [if_pos zero] at found ⊢
      have inside : bytes ≠ [] := by
        intro none
        rw [none] at found
        cases (finish_ok found).1
      rw [startsWithDigit_more inside]
      by_cases digit : startsWithDigit bytes = true
      · rw [if_pos digit] at found
        cases found
      · rw [if_neg digit] at found ⊢
        exact inside_readShortLiteral found more
    rw [if_neg zero] at found ⊢
    by_cases digit : isDigit b = true
    · rw [if_pos digit] at found ⊢
      rcases taken : takeDigits (digitValue b) bytes with ⟨s, _ | ⟨d, tail⟩⟩
      · rw [taken] at found
        cases (finish_ok found).1
      · rw [taken] at found
        rw [takeDigits_more taken (List.cons_ne_nil d tail)]
        simp only [startsWithDigit_more (List.cons_ne_nil d tail)] at found ⊢
        by_cases digits : startsWithDigit (d :: tail) = true
        · rw [if_pos digits] at found ⊢
          have inside : skipDigits (d :: tail) ≠ [] := by
            intro none
            rw [none] at found
            cases (finishDouble_ok found).1
          rw [skipDigits_more inside, List.length_append, List.length_append,
            Nat.add_sub_add_right]
          exact inside_readAfterDigits found more
        · rw [if_neg digits] at found ⊢
          exact inside_readShortLiteral found more
    · rw [if_neg digit] at found
      cases found

end DuplexRpc.Json

import DuplexRpc.Proofs.Double.Shortest
import DuplexRpc.Proofs.Json.Number
import DuplexRpc.Proofs.Json.Utf8

/-! Binary64 numbers that were written are read back as finite numbers, where no more of a number
follows: positional numerals since they are small, and numerals with an exponent since all digits of
the shortest decimal are kept. -/

namespace DuplexRpc.Json

open Text

/-- Digits, one at least. -/
def Digits (bytes : List UInt8) : Prop :=
  bytes ≠ [] ∧ ∀ b ∈ bytes, isDigit b = true

/-- A finite binary64 number is read, and nothing of what follows it. -/
def ReadsFloat (rest : List UInt8) (outcome : Except SyntaxError (Number × List UInt8)) : Prop :=
  ∃ x h, outcome = .ok (.float x h, rest)

/-- A number without its sign, read as a finite one where no more of a number follows. -/
structure Numeral (text : List UInt8) : Prop where
  starts : ∃ b tail, text = b :: tail ∧ isDigit b = true
  reads : ∀ (negative : Bool) {rest : List UInt8}, EndsNumber rest →
    ReadsFloat rest (readNumber negative (text ++ rest))

variable {negative : Bool} {s : Nat} {e : Int} {digits more rest : List UInt8} {b : UInt8}
  {x : Double}

/-! ### Digits -/

theorem digitValue_lt {b : UInt8} (h : isDigit b = true) : digitValue b < 10 := by
  obtain ⟨-, high⟩ := Bool.and_eq_true_iff.mp h
  have high : b.toNat ≤ 57 := of_decide_eq_true high
  rw [digitValue]
  omega

/-- The number that digits make has no more digits than they are. -/
theorem digitsValue_lt {digits : List UInt8} (digital : ∀ b ∈ digits, isDigit b = true) (acc : Nat) :
    digitsValue acc digits < (acc + 1) * 10 ^ digits.length := by
  induction digits generalizing acc with
  | nil => simp [digitsValue]
  | cons b digits ih =>
    have first := digitValue_lt (digital b List.mem_cons_self)
    calc digitsValue (acc * 10 + digitValue b) digits
        < (acc * 10 + digitValue b + 1) * 10 ^ digits.length :=
          ih (fun c hc => digital c (List.mem_cons_of_mem b hc)) _
      _ ≤ (acc + 1) * 10 * 10 ^ digits.length := Nat.mul_le_mul_right _ (by omega)
      _ = (acc + 1) * 10 ^ (digits.length + 1) := by rw [Nat.pow_succ']; exact Nat.mul_assoc _ _ _

/-- Up to sixteen digits make a number of 64 bits. -/
theorem digitsValue_small (digital : ∀ b ∈ digits, isDigit b = true) (few : digits.length ≤ 16) :
    digitsValue 0 digits < 0x10000000000000000 := by
  have power : 10 ^ digits.length ≤ 10 ^ 16 := Nat.pow_le_pow_right (by decide) few
  have := digitsValue_lt digital 0
  omega

theorem length_decimalBytes_le {n k : Nat} (h : n < 10 ^ (k + 1)) :
    (decimalBytes n).length ≤ k + 1 := by
  induction n using decimalBytes.induct generalizing k with
  | case1 n small =>
    rw [decimalBytes, if_pos small]
    exact Nat.le_add_left 1 k
  | case2 n large ih =>
    cases k with
    | zero => exact absurd h large
    | succ k =>
      rw [decimalBytes, if_neg large, List.length_append]
      exact Nat.succ_le_succ (ih (Nat.div_lt_of_lt_mul (by rwa [Nat.pow_succ'] at h)))

/-! ### Reading numerals -/

theorem skipDigits_append (digital : ∀ b ∈ digits, isDigit b = true)
    (ends : startsWithDigit rest = false) : skipDigits (digits ++ rest) = rest := by
  induction digits with
  | nil =>
    cases rest with
    | nil => rfl
    | cons b rest =>
      have other : isDigit b = false := ends
      rw [List.nil_append, skipDigits, other]
      rfl
  | cons b digits ih =>
    rw [List.cons_append, skipDigits, if_pos (digital b List.mem_cons_self)]
    exact ih fun c hc => digital c (List.mem_cons_of_mem b hc)

/-- Some digits are taken, from the first one on, and the number they make has 64 bits. -/
theorem takeDigits_cases (digits : List UInt8) (small : s < 0x10000000000000000)
    (ends : startsWithDigit rest = false) : ∃ s' taken more, s' < 0x10000000000000000 ∧
      digits = taken ++ more ∧ takeDigits s (digits ++ rest) = (s', more ++ rest) := by
  induction digits generalizing s with
  | nil =>
    refine ⟨s, [], [], small, rfl, ?_⟩
    cases rest with
    | nil => rfl
    | cons b rest =>
      have other : isDigit b = false := ends
      rw [List.nil_append, takeDigits, if_neg (by simp [other])]
  | cons b digits ih =>
    rw [List.cons_append, takeDigits]
    split
    · rename_i fits
      obtain ⟨s', taken, more, small', same, left⟩ := ih fits.2
      exact ⟨s', b :: taken, more, small', by rw [same, List.cons_append], left⟩
    · exact ⟨s, [], b :: digits, small, rfl, rfl⟩

/-- The digits of an exponent are all taken where it stays within the limit. -/
theorem takeExponent_append {acc : Nat} (digital : ∀ b ∈ digits, isDigit b = true)
    (small : digitsValue acc digits ≤ exponentLimit) (ends : startsWithDigit rest = false) :
    takeExponent acc (digits ++ rest) = (digitsValue acc digits, false, rest) := by
  induction digits generalizing acc with
  | nil =>
    cases rest with
    | nil => rfl
    | cons b rest =>
      have other : isDigit b = false := ends
      rw [List.nil_append, takeExponent, other]
      rfl
  | cons b digits ih =>
    have first : acc * 10 + digitValue b ≤ exponentLimit :=
      Nat.le_trans (le_digitsValue _ digits) small
    rw [List.cons_append, takeExponent, if_pos (digital b List.mem_cons_self), if_pos first]
    exact ih (fun c hc => digital c (List.mem_cons_of_mem b hc)) small

theorem readsFloat_of_ofDecimal
    (h : ∃ y, y.isFinite = true ∧ Double.ofDecimal negative s e = some y) :
    ReadsFloat rest (finishDouble negative s e rest) := by
  obtain ⟨y, finite, found⟩ := h
  refine ⟨y, finite, ?_⟩
  rw [finishDouble, found, Option.bind_some, Number.ofDouble?, dif_pos finite]

theorem readExponentIfAny_of_ends (h : EndsNumber rest) :
    readExponentIfAny negative s e rest = finishDouble negative s e rest := by
  have none : startsWithExponent rest = false := by
    cases rest with
    | nil => rfl
    | cons b rest =>
      obtain ⟨-, -, lower, upper⟩ := h b rfl
      simp [startsWithExponent, lower, upper]
  rw [readExponentIfAny, none]
  rfl

/-- Digits after the point only lower the power of ten. -/
theorem readsFloat_readFraction (small : s < 0x10000000000000000) (h : Digits digits)
    (ends : EndsNumber rest) : ReadsFloat rest (readFraction negative s 0 (digits ++ rest)) := by
  have stops := ends.startsWithDigit
  obtain ⟨s', taken, more, small', same, left⟩ := takeDigits_cases digits small stops
  have beyond : ∀ b ∈ more, isDigit b = true := fun b hb =>
    h.2 b (same ▸ List.mem_append_right taken hb)
  have places : (digits ++ rest).length - (more ++ rest).length = taken.length := by
    simp only [same, List.length_append]
    omega
  have found (places : Nat) : ReadsFloat rest (finishDouble negative s' (0 - places) rest) :=
    readsFloat_of_ofDecimal (Double.exists_ofDecimal_of_nonpos negative small' (by omega))
  simp only [readFraction, left, places]
  cases more with
  | cons b more =>
    have first : startsWithDigit (b :: more ++ rest) = true := beyond b List.mem_cons_self
    rw [first, if_pos rfl, skipDigits_append beyond stops, readExponentIfAny_of_ends ends]
    exact found taken.length
  | nil =>
    rw [List.append_nil] at same
    have some : taken.length ≠ 0 := fun none =>
      h.1 (same.trans (List.eq_nil_of_length_eq_zero none))
    rw [List.nil_append, stops, if_neg nofun, if_neg some, readExponentIfAny_of_ends ends]
    exact found taken.length

/-- A numeral without an exponent. -/
theorem numeral_point {whole : List UInt8} (h : Whole whole)
    (small : digitsValue 0 whole < 0x10000000000000000) (hd : Digits digits) :
    Numeral (whole ++ ascii '.' :: digits) where
  starts := by
    obtain ⟨digital, rfl | ⟨b, more, rfl, -⟩⟩ := h
    · exact ⟨_, _, rfl, rfl⟩
    · exact ⟨b, _, rfl, digital b List.mem_cons_self⟩
  reads negative rest ends := by
    rw [List.append_assoc, readNumber_whole h small rfl, List.cons_append, readShortLiteral, if_pos rfl]
    exact readsFloat_readFraction small hd ends

/-- The sign of a power of ten. -/
def signByte (power : Int) : UInt8 :=
  if power < 0 then ascii '-' else ascii '+'

theorem readExponent_append {power : Int} (small : power.natAbs ≤ exponentLimit)
    (ends : EndsNumber rest) :
    readExponent negative s e (signByte power :: (decimalBytes power.natAbs ++ rest)) =
      finishDouble negative s (clampExponent (e + power)) rest := by
  have digital := isDigit_decimalBytes power.natAbs
  have value := digitsValue_decimalBytes power.natAbs
  cases same : decimalBytes power.natAbs with
  | nil => exact absurd (same ▸ (whole_decimalBytes power.natAbs).2) (by simp)
  | cons b more =>
    rw [same] at digital value
    rw [digitsValue, List.foldl_cons, Nat.zero_mul, Nat.zero_add, ← digitsValue] at value
    have taken := takeExponent_append (fun c hc => digital c (List.mem_cons_of_mem b hc))
      (value ▸ small) ends.startsWithDigit
    unfold signByte
    split
    · have lower : e - (power.natAbs : Int) = e + power := by omega
      simp only [readExponent, List.cons_append, if_true, digital b List.mem_cons_self, taken, value,
        if_neg (show ascii '-' ≠ ascii '+' by decide), Bool.false_eq_true, if_false, lower]
    · have higher : e + (power.natAbs : Int) = e + power := by omega
      simp only [readExponent, List.cons_append, if_true, digital b List.mem_cons_self, taken, value,
        higher]

/-- The digits after the first one, behind a point, if there are any. -/
def afterPoint (digits : List UInt8) : List UInt8 :=
  if digits = [] then [] else ascii '.' :: digits

/-- All digits after the point are taken where they fit in 64 bits. -/
theorem readFraction_append (nonempty : digits ≠ []) (digital : ∀ c ∈ digits, isDigit c = true)
    (small : digitsValue s digits < 0x10000000000000000) (bytes : List UInt8) :
    readFraction negative s 0 (digits ++ ascii 'e' :: bytes) =
      readExponent negative (digitsValue s digits) (-digits.length) bytes := by
  have taken : takeDigits s (digits ++ ascii 'e' :: bytes) =
      (digitsValue s digits, ascii 'e' :: bytes) := takeDigits_append digital small rfl
  have places : (digits ++ ascii 'e' :: bytes).length - (ascii 'e' :: bytes).length =
      digits.length := by
    rw [List.length_append]
    omega
  have some : digits.length ≠ 0 := fun none => nonempty (List.eq_nil_of_length_eq_zero none)
  simp only [readFraction, taken, places]
  rw [if_neg (show ¬ startsWithDigit (ascii 'e' :: bytes) = true from nofun), if_neg some,
    readExponentIfAny, if_pos (show startsWithExponent (ascii 'e' :: bytes) = true from rfl),
    Int.zero_sub]
  rfl

theorem readNumber_scientific (first : isDigit b = true) (nonzero : b ≠ ascii '0')
    (digital : ∀ c ∈ digits, isDigit c = true)
    (small : digitsValue 0 (b :: digits) < 0x10000000000000000) (bytes : List UInt8) :
    readNumber negative (b :: (afterPoint digits ++ ascii 'e' :: bytes)) =
      readExponent negative (digitsValue 0 (b :: digits)) (-digits.length) bytes := by
  have whole : Whole [b] := by
    refine ⟨fun c hc => ?_, .inr ⟨b, [], rfl, nonzero⟩⟩
    rwa [List.mem_singleton.mp hc]
  have least : digitsValue 0 [b] ≤ digitsValue 0 (b :: digits) := le_digitsValue _ digits
  have stops : startsWithDigit (afterPoint digits ++ ascii 'e' :: bytes) = false := by
    unfold afterPoint
    split <;> rfl
  rw [← List.singleton_append, readNumber_whole whole (Nat.lt_of_le_of_lt least small) stops]
  cases digits with
  | nil =>
    rw [afterPoint, if_pos rfl, List.nil_append, readShortLiteral, if_neg (by decide),
      if_pos (.inl rfl)]
    rfl
  | cons c digits =>
    rw [afterPoint, if_neg (List.cons_ne_nil c digits), List.cons_append, readShortLiteral,
      if_pos rfl]
    exact readFraction_append (List.cons_ne_nil c digits) digital small bytes

/-- A numeral with an exponent. -/
theorem numeral_scientific (first : isDigit b = true) (nonzero : b ≠ ascii '0')
    (digital : ∀ c ∈ digits, isDigit c = true)
    (small : digitsValue 0 (b :: digits) < 0x10000000000000000) {power : Int}
    (limited : power.natAbs ≤ exponentLimit)
    (read : ∀ negative, ∃ y, y.isFinite = true ∧ Double.ofDecimal negative
      (digitsValue 0 (b :: digits)) (clampExponent (-digits.length + power)) = some y) :
    Numeral (b :: (afterPoint digits ++
      ascii 'e' :: signByte power :: decimalBytes power.natAbs)) where
  starts := ⟨b, _, rfl, first⟩
  reads negative rest ends := by
    rw [List.cons_append, List.append_assoc, List.cons_append, List.cons_append,
      readNumber_scientific first nonzero digital small, readExponent_append limited ends]
    exact readsFloat_of_ofDecimal (read negative)

/-! ### Writing numerals -/

theorem encodeChar_digitChar : ∀ n < 10, String.utf8EncodeChar n.digitChar = [digitByte n] := by
  decide

theorem utf8_toString (n : Nat) : utf8 (toString n) = decimalBytes n := by
  rw [Nat.toString_eq_ofList_toDigits, utf8_ofList]
  induction n using decimalBytes.induct with
  | case1 n small =>
    rw [Nat.toDigits_of_lt_base small, decimalBytes, if_pos small, List.flatMap_cons,
      List.flatMap_nil, List.append_nil, encodeChar_digitChar n small]
  | case2 n large ih =>
    rw [Nat.toDigits_of_base_le (by decide) (Nat.le_of_not_lt large), decimalBytes, if_neg large,
      List.flatMap_append, ih, List.flatMap_cons, List.flatMap_nil, List.append_nil,
      encodeChar_digitChar _ (Nat.mod_lt n (by decide))]

theorem ofNat_eq_digitChar : ∀ n < 10, Char.ofNat (48 + n) = n.digitChar := by
  decide

/-- The byte of a character that is a digit. -/
def byteOf (c : Char) : UInt8 :=
  digitByte (c.toNat - 48)

theorem encodeChar_of_isDigit {c : Char} (h : c.isDigit = true) :
    String.utf8EncodeChar c = [byteOf c] := by
  rw [Char.isDigit, Bool.and_eq_true, decide_eq_true_iff, decide_eq_true_iff] at h
  have low : 48 ≤ c.toNat := h.1
  have high : c.toNat ≤ 57 := h.2
  have same : (c.toNat - 48).digitChar = c := by
    rw [← ofNat_eq_digitChar _ (by omega), Nat.add_sub_cancel' low, Char.ofNat_toNat]
  rw [byteOf, ← encodeChar_digitChar _ (by omega), same]

theorem utf8_ofList_digits {cs : List Char} (digital : ∀ c ∈ cs, c.isDigit = true) :
    utf8 (String.ofList cs) = cs.map byteOf := by
  rw [utf8_ofList]
  induction cs with
  | nil => rfl
  | cons c cs ih =>
    rw [List.flatMap_cons, encodeChar_of_isDigit (digital c List.mem_cons_self),
      ih fun c' hc' => digital c' (List.mem_cons_of_mem c hc'), List.map_cons]
    rfl

theorem isDigit_toString (d : Nat) : ∀ c ∈ (toString d).toList, c.isDigit = true := by
  intro c hc
  rw [Nat.toString_eq_ofList_toDigits, String.toList_ofList] at hc
  exact Nat.isDigit_of_mem_toDigits (by decide) (by decide) hc

/-- The digits of a number, and parts of them, as bytes. -/
theorem decimalBytes_eq_map (d : Nat) : decimalBytes d = (toString d).toList.map byteOf := by
  rw [← utf8_ofList_digits (isDigit_toString d), String.ofList_toList, utf8_toString]

theorem utf8_take (d n : Nat) :
    utf8 (String.ofList ((toString d).toList.take n)) = (decimalBytes d).take n := by
  rw [utf8_ofList_digits fun c hc => isDigit_toString d c (List.mem_of_mem_take hc), List.map_take,
    decimalBytes_eq_map]

theorem utf8_drop (d n : Nat) :
    utf8 (String.ofList ((toString d).toList.drop n)) = (decimalBytes d).drop n := by
  rw [utf8_ofList_digits fun c hc => isDigit_toString d c (List.mem_of_mem_drop hc), List.map_drop,
    decimalBytes_eq_map]

theorem length_toString (d : Nat) : (toString d).toList.length = (decimalBytes d).length := by
  rw [decimalBytes_eq_map, List.length_map]

theorem utf8_zeros (n : Nat) : utf8 (Double.zeros n) = List.replicate n (ascii '0') := by
  have digital : ∀ c ∈ List.replicate n '0', c.isDigit = true := by
    intro c hc
    rw [List.eq_of_mem_replicate hc]
    rfl
  rw [Double.zeros, utf8_ofList_digits digital, List.map_replicate]
  rfl

theorem utf8_point (s t : String) : utf8 (s ++ "." ++ t) = utf8 s ++ ascii '.' :: utf8 t := by
  rw [utf8_append, utf8_append, List.append_assoc]
  rfl

theorem isDigit_replicate (n : Nat) : ∀ b ∈ List.replicate n (ascii '0'), isDigit b = true := by
  intro b hb
  rw [List.eq_of_mem_replicate hb]
  rfl

theorem isDigit_append (first : ∀ b ∈ digits, isDigit b = true)
    (second : ∀ b ∈ more, isDigit b = true) : ∀ b ∈ digits ++ more, isDigit b = true := fun b hb =>
  (List.mem_append.mp hb).elim (first b) (second b)

theorem utf8_zero : utf8 "0" = [ascii '0'] := by
  have same := utf8_toString 0
  rwa [decimalBytes, if_pos (by decide)] at same

theorem digits_zero : Digits [ascii '0'] :=
  ⟨List.cons_ne_nil _ _, isDigit_replicate 1⟩

theorem whole_zero : Whole [ascii '0'] :=
  ⟨isDigit_replicate 1, .inl rfl⟩

theorem numeral_positional {d : Nat} {exponent : Int} (hd : d ≠ 0)
    (few : exponent + (decimalBytes d).length ≤ 16) :
    Numeral (utf8 (Double.positional (toString d) exponent)) := by
  have digital := isDigit_decimalBytes d
  obtain ⟨b, more, cons, nonzero⟩ := decimalBytes_eq_cons hd
  unfold Double.positional
  split
  · have zeros := isDigit_append digital (isDigit_replicate exponent.toNat)
    have length : (decimalBytes d ++ List.replicate exponent.toNat (ascii '0')).length ≤ 16 := by
      rw [List.length_append, List.length_replicate]
      omega
    have whole : Whole (decimalBytes d ++ List.replicate exponent.toNat (ascii '0')) :=
      ⟨zeros, .inr ⟨b, _, by rw [cons, List.cons_append], nonzero⟩⟩
    rw [show ".0" = "." ++ "0" from rfl, ← String.append_assoc, utf8_point, utf8_append, utf8_toString,
      utf8_zeros, utf8_zero]
    exact numeral_point whole (digitsValue_small zeros length) digits_zero
  · simp only [length_toString]
    split
    · rename_i within
      obtain ⟨n, hn⟩ : ∃ n, n = (decimalBytes d).length - (-exponent).toNat := ⟨_, rfl⟩
      have taken : ∀ c ∈ (decimalBytes d).take n, isDigit c = true := fun c hc =>
        digital c (List.mem_of_mem_take hc)
      have length : ((decimalBytes d).take n).length ≤ 16 := by
        rw [List.length_take]
        omega
      have whole : Whole ((decimalBytes d).take n) := by
        refine ⟨taken, .inr ⟨b, more.take (n - 1), ?_, nonzero⟩⟩
        rw [cons, ← List.take_succ_cons, Nat.sub_add_cancel (by omega)]
      have after : (decimalBytes d).drop n ≠ [] := by
        rw [← List.length_pos_iff, List.length_drop]
        omega
      rw [← hn, utf8_point, utf8_take, utf8_drop]
      exact numeral_point whole (digitsValue_small taken length)
        ⟨after, fun c hc => digital c (List.mem_of_mem_drop hc)⟩
    · rw [show "0." = "0" ++ "." from rfl, String.append_assoc, utf8_point, utf8_append, utf8_zeros,
        utf8_toString, utf8_zero]
      have digits := isDigit_append
        (isDigit_replicate ((-exponent).toNat - (decimalBytes d).length)) digital
      refine numeral_point whole_zero (by decide) ⟨List.append_ne_nil_of_right_ne_nil _ ?_, digits⟩
      rw [cons]
      exact List.cons_ne_nil b more

theorem utf8_scientific {d : Nat} (cons : decimalBytes d = b :: more) (power : Int) :
    utf8 (Double.scientific (toString d) power) =
      b :: (afterPoint more ++ ascii 'e' :: signByte power :: decimalBytes power.natAbs) := by
  have first : utf8 (String.ofList ((toString d).toList.take 1)) = [b] := by
    rw [utf8_take, cons]
    rfl
  have others : utf8 (String.ofList ((toString d).toList.drop 1)) = more := by
    rw [utf8_drop, cons]
    rfl
  have alone : ((toString d).toList.drop 1).isEmpty = true ↔ more = [] := by
    rw [List.isEmpty_iff, ← List.length_eq_zero_iff, List.length_drop, length_toString, cons,
      List.length_cons, Nat.add_sub_cancel, List.length_eq_zero_iff]
  have exponent : utf8 ("e" ++ ((if power < 0 then "-" else "+") ++ toString power.natAbs)) =
      ascii 'e' :: signByte power :: decimalBytes power.natAbs := by
    rw [utf8_append, utf8_append, utf8_toString]
    unfold signByte
    split <;> rfl
  unfold Double.scientific afterPoint
  simp only [alone]
  rw [String.append_assoc, String.append_assoc, utf8_append, exponent]
  split
  · rw [first]
    rfl
  · rw [utf8_point, first, others]
    rfl

theorem clampExponent_eq (low : -0x80000000 ≤ e) (high : e ≤ 0x7FFFFFFF) : clampExponent e = e := by
  unfold clampExponent
  omega

/-- The shortest decimal of a number, with an exponent. -/
theorem numeral_shortest (finite : x.isFinite = true) (nonzero : x.isZero = false) :
    Numeral (utf8 (Double.scientific (toString x.shortest.digits)
      (x.shortest.exponent + (decimalBytes x.shortest.digits).length - 1))) := by
  have fitting := Double.fitting_shortest finite nonzero
  have most := Double.exponent_shortest_le finite nonzero
  have least := fitting.least
  obtain ⟨b, more, cons, leading⟩ := decimalBytes_eq_cons (Nat.ne_of_gt fitting.pos)
  have digital := isDigit_decimalBytes x.shortest.digits
  have value := digitsValue_decimalBytes x.shortest.digits
  have few : (decimalBytes x.shortest.digits).length ≤ 18 :=
    length_decimalBytes_le (Nat.lt_of_le_of_lt fitting.few (by decide))
  rw [cons] at digital value
  rw [utf8_scientific cons]
  rw [cons, List.length_cons] at few ⊢
  refine numeral_scientific (digital b List.mem_cons_self) leading
    (fun c hc => digital c (List.mem_cons_of_mem b hc)) ?_ ?_ fun negative => ?_
  · rw [value]
    exact Nat.lt_of_le_of_lt fitting.few (by decide)
  · unfold exponentLimit
    omega
  · -- The digits after the point take from the exponent what they added to it.
    rw [value, clampExponent_eq (by omega) (by omega), show -(more.length : Int) +
      (x.shortest.exponent + ((more.length + 1 : Nat) : Int) - 1) = x.shortest.exponent by omega]
    exact Double.exists_ofDecimal_shortest negative finite nonzero

/-- A binary64 number is written as a numeral, after a minus sign where it is negative. -/
theorem writeNumber_float (x : Double) (h : x.isFinite = true) :
    ∃ text, Numeral text ∧
      (writeNumber (.float x h) = text ∨ writeNumber (.float x h) = ascii '-' :: text) := by
  have signed (s : String) : utf8 ((if x.isNegative then "-" else "") ++ s) = utf8 s ∨
      utf8 ((if x.isNegative then "-" else "") ++ s) = ascii '-' :: utf8 s := by
    rw [utf8_append]
    split
    · exact .inr rfl
    · exact .inl rfl
  rw [writeNumber]
  unfold Double.render
  simp only
  split
  · refine ⟨utf8 "0.0", ?_, signed _⟩
    rw [show "0.0" = "0" ++ "." ++ "0" from rfl, utf8_point, utf8_zero]
    exact numeral_point whole_zero (by decide) digits_zero
  · rename_i nonzero
    have nonzero := Bool.eq_false_iff.mpr nonzero
    have length : (toString x.shortest.digits).length = (decimalBytes x.shortest.digits).length := by
      rw [← String.length_toList, length_toString]
    rw [length]
    split
    · rename_i narrow
      have most : x.shortest.exponent + (decimalBytes x.shortest.digits).length - 1 ≤ 15 := narrow.2
      have pos := (Double.fitting_shortest h nonzero).pos
      exact ⟨_, numeral_positional (Nat.ne_of_gt pos) (by omega), signed _⟩
    · exact ⟨_, numeral_shortest h nonzero, signed _⟩

end DuplexRpc.Json

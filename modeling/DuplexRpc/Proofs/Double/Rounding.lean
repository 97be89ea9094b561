import DuplexRpc.Double.Basic
import Mathlib.Algebra.Order.Field.Rat
import Mathlib.Algebra.Order.Field.Power
import Mathlib.Tactic.FieldSimp
import Mathlib.Tactic.NormNum
import Mathlib.Tactic.Positivity
import Mathlib.Tactic.Ring

/-! Rounding keeps the order of what is rounded. A greater quotient is rounded to a number of no lower
rank, and so are the product and the quotient of greater numbers; what is rounded to a finite number
bounds all that is. -/

namespace DuplexRpc.Double

/-- The place of a number among the magnitudes, from zero up to infinity. -/
def rank (x : Double) : Nat :=
  x.bits.toNat % signBit

/-- The magnitude of a finite number. -/
def magnitude (x : Double) : ℚ :=
  x.significand * 2 ^ x.scale

variable {x y x' y' : Double} {num den num' den' m n a b : Nat}

/-! ### Ranks -/

theorem rank_withSign (negative : Bool) (h : m < signBit) : (withSign negative m).rank = m := by
  have low : m < 9223372036854775808 := h
  unfold rank withSign signBit
  rw [UInt64.toNat_ofNat']
  split <;> omega

theorem exponentField_eq (x : Double) : x.exponentField = x.rank / leastNormal := by
  unfold exponentField rank leastNormal signBit
  omega

theorem fraction_eq (x : Double) : x.fraction = x.rank % leastNormal := by
  unfold fraction rank leastNormal signBit
  omega

theorem rank_lt (x : Double) : x.rank < signBit :=
  Nat.mod_lt _ (by decide)

theorem isFinite_iff : x.isFinite = true ↔ x.rank < infinityBits := by
  have bound : x.rank < 9223372036854775808 := x.rank_lt
  rw [isFinite, bne_iff_ne, exponentField_eq, leastNormal, infinityBits]
  omega

theorem rank_neg (x : Double) : x.neg.rank = x.rank :=
  rank_withSign _ x.rank_lt

/-- A number below a finite one is finite. -/
theorem isFinite_of_rank_le (h : x.rank ≤ y.rank) (finite : y.isFinite = true) :
    x.isFinite = true :=
  isFinite_iff.mpr (Nat.lt_of_le_of_lt h (isFinite_iff.mp finite))

/-! ### Magnitudes -/

/-- A power of two may go over from the scale to the significand. -/
theorem scaled_le_scaled {p q : Int} (d : Nat) (scale : p + d ≤ q) (h : a ≤ b * 2 ^ d) :
    (a : ℚ) * 2 ^ p ≤ b * 2 ^ q := by
  have significand : (a : ℚ) ≤ b * 2 ^ d := by exact_mod_cast h
  calc (a : ℚ) * 2 ^ p ≤ b * 2 ^ d * 2 ^ p := by gcongr
    _ = b * 2 ^ (p + d) := by rw [zpow_add₀ two_ne_zero, zpow_natCast]; ring
    _ ≤ b * 2 ^ q := by gcongr; exact one_le_two

theorem magnitude_nonneg (x : Double) : 0 ≤ x.magnitude := by
  unfold magnitude
  positivity

theorem magnitude_le_magnitude (h : x.rank ≤ y.rank) : x.magnitude ≤ y.magnitude := by
  have fields := Nat.div_le_div_right (c := leastNormal) h
  have low := Nat.mod_lt x.rank (show 0 < leastNormal by decide)
  have parts := Nat.div_add_mod x.rank leastNormal
  have parts' := Nat.div_add_mod y.rank leastNormal
  unfold magnitude significand scale
  rw [exponentField_eq, exponentField_eq, fraction_eq, fraction_eq]
  generalize x.rank / leastNormal = f at *
  generalize y.rank / leastNormal = f' at *
  rcases Nat.eq_or_lt_of_le fields with rfl | lower
  · -- The same field: the fractions decide.
    refine scaled_le_scaled 0 (by simp) ?_
    split <;> omega
  · rw [if_neg (Nat.ne_zero_of_lt lower), if_neg (Nat.ne_zero_of_lt lower)]
    split
    · exact scaled_le_scaled 0 (by omega) (by omega)
    · exact scaled_le_scaled 1 (by omega) (by omega)

theorem significand_lt (x : Double) : x.significand < 2 * leastNormal := by
  have low : x.fraction < leastNormal := Nat.mod_lt _ (by decide)
  unfold significand
  split <;> omega

/-- The greatest finite number. -/
def greatest : Double :=
  ⟨0x7FEFFFFFFFFFFFFF⟩

theorem magnitude_le_greatest (h : x.isFinite = true) : x.magnitude ≤ greatest.magnitude := by
  refine magnitude_le_magnitude (Nat.le_of_lt_succ ?_)
  exact Nat.lt_of_lt_of_le (isFinite_iff.mp h) (by decide)

/-! ### Quotients -/

/-- The power of two of the last place that is kept of a quotient. -/
def lastPlace (num den : Nat) : Int :=
  max (log2Ratio num den - 52) (-1074)

/-- A quotient in units of its last place. -/
def rounded (num den : Nat) : Nat :=
  if 0 ≤ lastPlace num den then divRoundEven num (den <<< (lastPlace num den).toNat)
  else divRoundEven (num <<< (-lastPlace num den).toNat) den

/-- The rank of a rounded quotient, past that of infinity where it is too large. -/
def quotientRank (num den : Nat) : Nat :=
  if num = 0 then 0 else (lastPlace num den + 1074).toNat * leastNormal + rounded num den

theorem rank_ofRatio (negative : Bool) (num den : Nat) :
    (ofRatio negative num den).rank = min infinityBits (quotientRank num den) := by
  have same : ofRatio negative num den =
      withSign negative (min infinityBits (quotientRank num den)) := by
    rw [ofRatio, quotientRank]
    split <;> rfl
  rw [same]
  exact rank_withSign negative (Nat.lt_of_le_of_lt (Nat.min_le_left _ _) (by decide))

theorem cast_shiftLeft (n : Nat) {e : Int} (h : 0 ≤ e) :
    ((n <<< e.toNat : Nat) : ℚ) = n * 2 ^ e := by
  rw [Nat.shiftLeft_eq, Nat.cast_mul, Nat.cast_pow, Nat.cast_ofNat, ← zpow_natCast,
    Int.toNat_of_nonneg h]

/-- A natural number lies between the powers of two of its logarithm. -/
theorem log2_bounds (h : n ≠ 0) :
    (2 : ℚ) ^ (n.log2 : Int) ≤ n ∧ (n : ℚ) < 2 ^ ((n.log2 : Int) + 1) := by
  rw [zpow_add_one₀ two_ne_zero, zpow_natCast]
  constructor
  · exact_mod_cast Nat.log2_self_le h
  · rw [← pow_succ]
    exact_mod_cast Nat.lt_log2_self

/-- A quotient lies between the powers of two of its logarithm. -/
theorem log2Ratio_bounds (hn : num ≠ 0) (hd : den ≠ 0) :
    (2 : ℚ) ^ log2Ratio num den ≤ num / den ∧ (num : ℚ) / den < 2 ^ (log2Ratio num den + 1) := by
  have pos : (0 : ℚ) < den := by exact_mod_cast Nat.pos_of_ne_zero hd
  obtain ⟨numLow, numHigh⟩ := log2_bounds hn
  obtain ⟨denLow, denHigh⟩ := log2_bounds hd
  obtain ⟨e, he⟩ : ∃ e : Int, e = (num.log2 : Int) - den.log2 := ⟨_, rfl⟩
  -- The logarithms alone leave two powers open, and the comparison decides.
  have low : (2 : ℚ) ^ (e - 1) ≤ num / den := by
    rw [le_div_iff₀ pos]
    calc (2 : ℚ) ^ (e - 1) * den ≤ 2 ^ (e - 1) * 2 ^ ((den.log2 : Int) + 1) := by gcongr
      _ = 2 ^ (num.log2 : Int) := by rw [← zpow_add₀ two_ne_zero, he]; congr 1; omega
      _ ≤ num := numLow
  have high : (num : ℚ) / den < 2 ^ (e + 1) := by
    rw [div_lt_iff₀ pos]
    calc (num : ℚ) < 2 ^ ((num.log2 : Int) + 1) := numHigh
      _ = 2 ^ (e + 1) * 2 ^ (den.log2 : Int) := by rw [← zpow_add₀ two_ne_zero, he]; congr 1; omega
      _ ≤ 2 ^ (e + 1) * den := by gcongr
  have compare : (if 0 ≤ e then num < den <<< e.toNat else num <<< (-e).toNat < den) ↔
      (num : ℚ) / den < 2 ^ e := by
    rw [div_lt_iff₀ pos, mul_comm]
    split
    · rename_i nonneg
      rw [← cast_shiftLeft den nonneg, Nat.cast_lt]
    · rename_i negative
      rw [← Nat.cast_lt (α := ℚ), cast_shiftLeft num (by omega), zpow_neg, ← div_eq_mul_inv,
        div_lt_iff₀ (by positivity)]
  rw [log2Ratio]
  simp only [← he, compare]
  split
  · rename_i below
    exact ⟨low, by rwa [Int.sub_add_cancel]⟩
  · rename_i above
    exact ⟨not_lt.mp above, high⟩

/-! ### Rounding to integers -/

theorem divRoundEven_one (n : Nat) : divRoundEven n 1 = n := by
  simp [divRoundEven, Nat.mod_one]

theorem divRoundEven_bounds (num den : Nat) :
    num / den ≤ divRoundEven num den ∧ divRoundEven num den ≤ num / den + 1 := by
  unfold divRoundEven
  simp only
  split
  · omega
  · split <;> omega

/-- A greater quotient is rounded to no lesser integer. -/
theorem divRoundEven_le (hd : 0 < den) (hd' : 0 < den') (h : num * den' ≤ num' * den) :
    divRoundEven num den ≤ divRoundEven num' den' := by
  have floors : num / den ≤ num' / den' := by
    rw [Nat.le_div_iff_mul_le hd']
    refine Nat.le_of_mul_le_mul_right ?_ hd
    calc num / den * den' * den = num / den * den * den' := Nat.mul_right_comm _ _ _
      _ ≤ num * den' := Nat.mul_le_mul_right _ (Nat.div_mul_le_self num den)
      _ ≤ num' * den := h
  rcases Nat.eq_or_lt_of_le floors with same | lower
  · -- Between the same integers the remainders decide.
    have remainders : 2 * (num % den) * den' ≤ 2 * (num' % den') * den := by
      have parts := congrArg (· * den') (Nat.div_add_mod num den)
      have parts' := congrArg (· * den) (Nat.div_add_mod num' den')
      simp only [Nat.add_mul, same] at parts parts'
      have common : den * (num' / den') * den' = den' * (num' / den') * den := by ring
      rw [Nat.mul_assoc, Nat.mul_assoc]
      omega
    have above (up : den < 2 * (num % den)) : den' < 2 * (num' % den') := by
      have scaled := Nat.mul_lt_mul_of_pos_right up hd'
      rw [Nat.mul_comm den den'] at scaled
      exact Nat.lt_of_mul_lt_mul_right (Nat.lt_of_lt_of_le scaled remainders)
    have between (up : den ≤ 2 * (num % den)) : den' ≤ 2 * (num' % den') := by
      have scaled := Nat.mul_le_mul_right den' up
      rw [Nat.mul_comm den den'] at scaled
      exact Nat.le_of_mul_le_mul_right (Nat.le_trans scaled remainders) hd
    unfold divRoundEven
    simp only [same]
    split <;> split <;> (try split) <;> (try split) <;> omega
  · exact Nat.le_trans (divRoundEven_bounds num den).2
      (Nat.le_trans lower (divRoundEven_bounds num' den').1)

/-! ### Rounding to numbers -/

/-- Rounding a quotient is rounding a quotient in units of its last place. -/
theorem rounded_eq (num : Nat) (hd : den ≠ 0) : ∃ a b, 0 < b ∧ rounded num den = divRoundEven a b ∧
    (a : ℚ) / b = num / den / 2 ^ lastPlace num den := by
  have pos : (den : ℚ) ≠ 0 := by exact_mod_cast hd
  unfold rounded
  split
  · rename_i nonneg
    refine ⟨num, den <<< (lastPlace num den).toNat, ?_, rfl, ?_⟩
    · rw [Nat.shiftLeft_eq]
      positivity
    · rw [cast_shiftLeft den nonneg, div_div]
  · refine ⟨num <<< (-lastPlace num den).toNat, den, Nat.pos_of_ne_zero hd, rfl, ?_⟩
    rw [cast_shiftLeft num (by omega), zpow_neg]
    field_simp

theorem rounded_le (hd : den ≠ 0) (hd' : den' ≠ 0)
    (h : (num : ℚ) / den / 2 ^ lastPlace num den ≤ num' / den' / 2 ^ lastPlace num' den') :
    rounded num den ≤ rounded num' den' := by
  obtain ⟨a, b, pos, same, eq⟩ := rounded_eq num hd
  obtain ⟨a', b', pos', same', eq'⟩ := rounded_eq num' hd'
  rw [same, same']
  rw [← eq, ← eq', div_le_div_iff₀ (by exact_mod_cast pos) (by exact_mod_cast pos')] at h
  exact divRoundEven_le pos pos' (by exact_mod_cast h)

/-- A quotient has no more bits than are kept, -/
theorem rounded_le_two_pow (hn : num ≠ 0) (hd : den ≠ 0) : rounded num den ≤ 2 * leastNormal := by
  obtain ⟨a, b, pos, same, eq⟩ := rounded_eq num hd
  have high := (log2Ratio_bounds hn hd).2
  rw [same, ← divRoundEven_one (2 * leastNormal)]
  refine divRoundEven_le pos Nat.one_pos ?_
  have below : (a : ℚ) / b ≤ 2 ^ (53 : Int) := by
    rw [eq, div_le_iff₀ (by positivity), ← zpow_add₀ two_ne_zero]
    refine high.le.trans (zpow_le_zpow_right₀ one_le_two ?_)
    unfold lastPlace
    omega
  rw [div_le_iff₀ (by exact_mod_cast pos)] at below
  rw [Nat.mul_one]
  exact_mod_cast below

/-- and all of them where it is not too small. -/
theorem le_rounded (hn : num ≠ 0) (hd : den ≠ 0) (large : -1074 < lastPlace num den) :
    leastNormal ≤ rounded num den := by
  obtain ⟨a, b, pos, same, eq⟩ := rounded_eq num hd
  have low := (log2Ratio_bounds hn hd).1
  rw [same, ← divRoundEven_one leastNormal]
  refine divRoundEven_le Nat.one_pos pos ?_
  have above : (2 : ℚ) ^ (52 : Int) ≤ a / b := by
    rw [eq, le_div_iff₀ (by positivity), ← zpow_add₀ two_ne_zero]
    refine (zpow_le_zpow_right₀ one_le_two ?_).trans low
    unfold lastPlace at large ⊢
    omega
  rw [le_div_iff₀ (by exact_mod_cast pos)] at above
  rw [Nat.mul_one]
  exact_mod_cast above

/-- A greater quotient is rounded to a number of no lower rank. -/
theorem quotientRank_le (hd : den ≠ 0) (hd' : den' ≠ 0) (h : (num : ℚ) / den ≤ num' / den') :
    quotientRank num den ≤ quotientRank num' den' := by
  unfold quotientRank
  split
  · exact Nat.zero_le _
  rename_i hn
  have pos : (0 : ℚ) < num / den :=
    div_pos (by exact_mod_cast Nat.pos_of_ne_zero hn) (by exact_mod_cast Nat.pos_of_ne_zero hd)
  have hn' : num' ≠ 0 := by
    rintro rfl
    rw [Nat.cast_zero, zero_div] at h
    exact absurd h (not_le.mpr pos)
  rw [if_neg hn']
  have logs : log2Ratio num den ≤ log2Ratio num' den' := by
    have less := (log2Ratio_bounds hn hd).1.trans_lt (h.trans_lt (log2Ratio_bounds hn' hd').2)
    have := (zpow_lt_zpow_iff_right₀ (one_lt_two (α := ℚ))).mp less
    omega
  have places : lastPlace num den ≤ lastPlace num' den' := by
    unfold lastPlace
    omega
  have least : -1074 ≤ lastPlace num den := by
    unfold lastPlace
    omega
  rcases places.eq_or_lt with same | lower
  · have units : rounded num den ≤ rounded num' den' := by
      refine rounded_le hd hd' ?_
      rw [same]
      gcongr
    rw [same]
    exact Nat.add_le_add_left units _
  · -- What is rounded up to a further bit is the least number with the next last place.
    have high := rounded_le_two_pow hn hd
    have low := le_rounded hn' hd' (by omega)
    have further : (lastPlace num den + 1074).toNat + 1 ≤ (lastPlace num' den' + 1074).toNat := by
      omega
    have ranks := Nat.mul_le_mul_right leastNormal further
    rw [Nat.add_mul, Nat.one_mul] at ranks
    omega

theorem rank_ofRatio_le (negative negative' : Bool) (hd : den ≠ 0) (hd' : den' ≠ 0)
    (h : (num : ℚ) / den ≤ num' / den') :
    (ofRatio negative num den).rank ≤ (ofRatio negative' num' den').rank := by
  rw [rank_ofRatio, rank_ofRatio]
  exact min_le_min_left _ (quotientRank_le hd hd' h)

theorem rank_ofNat_le (h : m ≤ n) : (ofNat m).rank ≤ (ofNat n).rank :=
  rank_ofRatio_le _ _ one_ne_zero one_ne_zero (by rw [Nat.cast_one, div_one, div_one]; exact_mod_cast h)

/-! ### Products and quotients of numbers -/

theorem ofScaled_eq (negative : Bool) (m : Nat) (q : Int) : ∃ num den, den ≠ 0 ∧
    ofScaled negative m q = ofRatio negative num den ∧ (num : ℚ) / den = m * 2 ^ q := by
  unfold ofScaled
  split
  · rename_i nonneg
    exact ⟨_, 1, one_ne_zero, rfl, by rw [cast_shiftLeft m nonneg, Nat.cast_one, div_one]⟩
  · refine ⟨m, _, ?_, rfl, ?_⟩
    · rw [Nat.shiftLeft_eq]
      positivity
    · rw [cast_shiftLeft 1 (by omega), zpow_neg, Nat.cast_one, one_mul, div_inv_eq_mul]

/-- The product of greater numbers has no lower rank. -/
theorem rank_mul_le (hx : x.magnitude ≤ x'.magnitude) (hy : y.magnitude ≤ y'.magnitude) :
    (mul x y).rank ≤ (mul x' y').rank := by
  have product (x y : Double) : ((x.significand * y.significand : Nat) : ℚ) * 2 ^ (x.scale + y.scale) =
      x.magnitude * y.magnitude := by
    rw [zpow_add₀ two_ne_zero, Nat.cast_mul, magnitude, magnitude]
    ring
  obtain ⟨num, den, hd, same, eq⟩ := ofScaled_eq (x.isNegative != y.isNegative)
    (x.significand * y.significand) (x.scale + y.scale)
  obtain ⟨num', den', hd', same', eq'⟩ := ofScaled_eq (x'.isNegative != y'.isNegative)
    (x'.significand * y'.significand) (x'.scale + y'.scale)
  rw [mul, mul, same, same']
  refine rank_ofRatio_le _ _ hd hd' ?_
  rw [eq, eq', product, product]
  exact mul_le_mul hx hy (magnitude_nonneg y) (magnitude_nonneg x')

theorem div_eq (x y : Double) (h : y.significand ≠ 0) : ∃ num den, den ≠ 0 ∧
    div x y = ofRatio (x.isNegative != y.isNegative) num den ∧
      (num : ℚ) / den = x.magnitude / y.magnitude := by
  have divisor : (y.significand : ℚ) ≠ 0 := by exact_mod_cast h
  have split : x.magnitude / y.magnitude =
      x.significand / y.significand * 2 ^ (x.scale - y.scale) := by
    rw [magnitude, magnitude, mul_div_mul_comm, ← zpow_sub₀ two_ne_zero]
  unfold div
  simp only
  split
  · rename_i nonneg
    refine ⟨_, _, h, rfl, ?_⟩
    rw [cast_shiftLeft _ nonneg, split]
    ring
  · refine ⟨_, _, ?_, rfl, ?_⟩
    · rw [Nat.shiftLeft_eq]
      positivity
    · rw [cast_shiftLeft _ (by omega), split, zpow_neg]
      field_simp

/-- A finite number divided by a number of at least one stays finite. -/
theorem isFinite_div (hx : x.isFinite = true) (hy : 1 ≤ y.magnitude) :
    (div x y).isFinite = true := by
  have divisor : y.significand ≠ 0 := by
    intro zero
    rw [magnitude, zero, Nat.cast_zero, zero_mul] at hy
    exact absurd hy (by norm_num)
  obtain ⟨num, den, hd, same, eq⟩ := div_eq x y divisor
  have top : (((2 * leastNormal - 1) * 2 ^ 971 : Nat) : ℚ) / (1 : Nat) = greatest.magnitude := by
    have parts : greatest.significand = 2 * leastNormal - 1 ∧ greatest.scale = 971 := by decide
    rw [magnitude, parts.1, parts.2, Nat.cast_one, div_one, Nat.cast_mul, Nat.cast_pow]
    rfl
  have below : (num : ℚ) / den ≤ (((2 * leastNormal - 1) * 2 ^ 971 : Nat) : ℚ) / (1 : Nat) := by
    rw [eq, top]
    exact (div_le_self (magnitude_nonneg x) hy).trans (magnitude_le_greatest hx)
  rw [same]
  refine isFinite_of_rank_le (rank_ofRatio_le _ false hd one_ne_zero below) ?_
  decide +kernel

end DuplexRpc.Double

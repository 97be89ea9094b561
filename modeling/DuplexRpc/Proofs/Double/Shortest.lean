import DuplexRpc.Double.Shortest
import DuplexRpc.Proofs.Double.Decimal

/-! The shortest decimal of a finite number has up to seventeen digits and lies among the numbers that
round to it, so that it is read as a finite number again. -/

namespace DuplexRpc.Double

variable {m a b d fuel digits : Nat} {q p k : Int} {x y : Double}

/-! ### Comparing with decimals -/

/-- What both sides of a comparison are multiplied with, so that no power is negative. -/
def clearing (p k : Int) : ℚ :=
  2 ^ (-p).toNat * 10 ^ (-k).toNat

theorem clearing_pos (p k : Int) : 0 < clearing p k := by
  unfold clearing
  positivity

theorem zpow_split {b : ℚ} (h : b ≠ 0) (z : Int) : b ^ z.toNat = b ^ z * b ^ (-z).toNat := by
  rw [← zpow_natCast, ← zpow_natCast, ← zpow_add₀ h]
  congr 1
  omega

theorem binary_cleared (a : Nat) (p k : Int) :
    (((a * tenTo (-k).toNat) <<< p.toNat : Nat) : ℚ) = a * 2 ^ p * clearing p k := by
  rw [Nat.shiftLeft_eq, clearing]
  push_cast
  rw [cast_tenTo, zpow_split two_ne_zero p]
  ring

theorem decimal_cleared (b : Nat) (p k : Int) :
    (((b * tenTo k.toNat) <<< (-p).toNat : Nat) : ℚ) = b * 10 ^ k * clearing p k := by
  rw [Nat.shiftLeft_eq, clearing]
  push_cast
  rw [cast_tenTo, zpow_split (by norm_num) k]
  ring

theorem lessThanDecimal_iff : lessThanDecimal a p b k = true ↔ (a : ℚ) * 2 ^ p < b * 10 ^ k := by
  rw [lessThanDecimal, decide_eq_true_iff, ← Nat.cast_lt (α := ℚ), binary_cleared, decimal_cleared,
    mul_lt_mul_iff_left₀ (clearing_pos p k)]

theorem decimalLessThan_iff : decimalLessThan b k a p = true ↔ (b : ℚ) * 10 ^ k < a * 2 ^ p := by
  rw [decimalLessThan, decide_eq_true_iff, ← Nat.cast_lt (α := ℚ), binary_cleared, decimal_cleared,
    mul_lt_mul_iff_left₀ (clearing_pos p k)]

theorem floorOnGrid_bounds (m : Nat) (q k : Int) :
    (floorOnGrid m q k : ℚ) * 10 ^ k ≤ m * 2 ^ q ∧
      m * 2 ^ q < ((floorOnGrid m q k : ℚ) + 1) * 10 ^ k := by
  have grid := decimal_cleared 1 q k
  rw [Nat.one_mul, Nat.cast_one, one_mul] at grid
  have pos : 0 < tenTo k.toNat <<< (-q).toNat := by
    rw [Nat.shiftLeft_eq]
    exact Nat.mul_pos (Nat.pos_of_ne_zero (tenTo_ne_zero _)) (Nat.two_pow_pos _)
  have clear := clearing_pos q k
  constructor
  · refine le_of_mul_le_mul_right ?_ clear
    rw [mul_assoc, ← grid, ← binary_cleared]
    exact_mod_cast Nat.div_mul_le_self _ _
  · refine lt_of_mul_lt_mul_right ?_ clear.le
    rw [← binary_cleared, mul_assoc, ← grid]
    exact_mod_cast Nat.lt_of_lt_of_eq (Nat.lt_mul_div_succ _ pos) (Nat.mul_comm _ _)

theorem roundsTo_le (h : roundsTo m q d k = true) : (d : ℚ) * 10 ^ k ≤ upperEnd m * 2 ^ (q - 2) := by
  rw [roundsTo] at h
  split at h
  · obtain ⟨-, above⟩ := Bool.and_eq_true_iff.mp h
    rw [Bool.not_eq_true', ← Bool.not_eq_true, lessThanDecimal_iff] at above
    exact not_lt.mp above
  · exact (decimalLessThan_iff.mp (Bool.and_eq_true_iff.mp h).2).le

theorem pos_of_roundsTo (hm : m ≠ 0) (h : roundsTo m q d k = true) : 0 < d := by
  refine Nat.pos_of_ne_zero fun zero => ?_
  have lower : 0 < lowerEnd m q := by
    unfold lowerEnd
    split <;> omega
  have pos : (0 : ℚ) < lowerEnd m q * 2 ^ (q - 2) := by
    have : (0 : ℚ) < lowerEnd m q := by exact_mod_cast lower
    positivity
  rw [zero, roundsTo] at h
  split at h
  · obtain ⟨below, -⟩ := Bool.and_eq_true_iff.mp h
    rw [Bool.not_eq_true', ← Bool.not_eq_true, decimalLessThan_iff, Nat.cast_zero, zero_mul] at below
    exact below pos
  · have below := lessThanDecimal_iff.mp (Bool.and_eq_true_iff.mp h).1
    rw [Nat.cast_zero, zero_mul] at below
    exact lt_asymm below pos

theorem nearestOnGrid_eq_some (h : nearestOnGrid m q k = some d) :
    roundsTo m q d k = true ∧ d ≤ floorOnGrid m q k + 1 := by
  unfold nearestOnGrid at h
  generalize floorOnGrid m q k = low at *
  dsimp only at h
  split at h
  · rename_i first second
    split at h
    · cases h
      exact ⟨first, Nat.le_succ _⟩
    · split at h
      · cases h
        exact ⟨second, le_rfl⟩
      · split at h
        · cases h
          exact ⟨first, Nat.le_succ _⟩
        · cases h
          exact ⟨second, le_rfl⟩
  · rename_i first _
    cases h
    exact ⟨first, Nat.le_succ _⟩
  · rename_i _ second
    cases h
    exact ⟨second, le_rfl⟩
  · cases h

/-! ### The leading digit -/

/-- Powers of two below powers of ten: the logarithm of two lies between 59 / 196 and 28 / 93. -/
theorem two_zpow_le_ten_zpow {e g : Int} (high : 28 * e ≤ 93 * g) (low : 59 * e ≤ 196 * g) :
    (2 : ℚ) ^ e ≤ 10 ^ g := by
  rcases le_total 0 e with nonneg | nonpos
  · obtain ⟨n, rfl⟩ := Int.eq_ofNat_of_zero_le nonneg
    refine (pow_le_pow_iff_left₀ (by positivity) (by positivity) (show 93 ≠ 0 by decide)).mp ?_
    calc ((2 : ℚ) ^ (n : Int)) ^ 93 = (2 ^ 93) ^ n := by
          rw [zpow_natCast, ← pow_mul, ← pow_mul, Nat.mul_comm]
      _ ≤ (10 ^ 28) ^ n := by gcongr; norm_num
      _ = 10 ^ (28 * (n : Int)) := by rw [zpow_mul]; norm_cast
      _ ≤ 10 ^ (93 * g) := zpow_le_zpow_right₀ (by norm_num) high
      _ = (10 ^ g) ^ 93 := by rw [Int.mul_comm, zpow_mul]; norm_cast
  · obtain ⟨n, same⟩ := Int.eq_ofNat_of_zero_le (Int.neg_nonneg_of_nonpos nonpos)
    obtain rfl : e = -n := by omega
    refine (pow_le_pow_iff_left₀ (by positivity) (by positivity) (show 196 ≠ 0 by decide)).mp ?_
    calc ((2 : ℚ) ^ (-n : Int)) ^ 196 = ((2 ^ 196) ^ n)⁻¹ := by
          rw [zpow_neg, zpow_natCast, inv_pow, ← pow_mul, ← pow_mul, Nat.mul_comm]
      _ ≤ ((10 ^ 59) ^ n)⁻¹ := by gcongr; norm_num
      _ = 10 ^ (59 * (-n : Int)) := by rw [zpow_mul, zpow_neg]; norm_cast
      _ ≤ 10 ^ (196 * g) := zpow_le_zpow_right₀ (by norm_num) low
      _ = (10 ^ g) ^ 196 := by rw [Int.mul_comm, zpow_mul]; norm_cast

theorem ten_zpow_le_two_zpow {e g : Int} (high : 93 * g ≤ 28 * e) (low : 196 * g ≤ 59 * e) :
    (10 : ℚ) ^ g ≤ 2 ^ e := by
  have inverse := two_zpow_le_ten_zpow (e := -e) (g := -g) (by omega) (by omega)
  rw [zpow_neg, zpow_neg] at inverse
  exact (inv_le_inv₀ (by positivity) (by positivity)).mp inverse

/-- The leading digit stands at its power of ten. -/
theorem leadingPower_bounds (hm : m ≠ 0) (least : -1074 ≤ (m.log2 : Int) + q)
    (most : (m.log2 : Int) + q ≤ 1023) :
    (10 : ℚ) ^ leadingPower m q ≤ m * 2 ^ q ∧ (m : ℚ) * 2 ^ q < 10 ^ (leadingPower m q + 1) ∧
      -325 ≤ leadingPower m q := by
  have lessThan_iff (g : Int) : lessThanDecimal m q 1 g = true ↔ (m : ℚ) * 2 ^ q < 10 ^ g := by
    rw [lessThanDecimal_iff, Nat.cast_one, one_mul]
  obtain ⟨binaryLow, binaryHigh⟩ := log2_bounds hm
  obtain ⟨g, guess⟩ : ∃ g : Int, g = ((m.log2 : Int) + q) * 30103 / 100000 - 1 := ⟨_, rfl⟩
  have low : (10 : ℚ) ^ g ≤ m * 2 ^ q := by
    calc (10 : ℚ) ^ g ≤ 2 ^ ((m.log2 : Int) + q) := ten_zpow_le_two_zpow (by omega) (by omega)
      _ = 2 ^ (m.log2 : Int) * 2 ^ q := zpow_add₀ two_ne_zero _ _
      _ ≤ m * 2 ^ q := by gcongr
  have high : (m : ℚ) * 2 ^ q < 10 ^ (g + 3) := by
    calc (m : ℚ) * 2 ^ q < 2 ^ ((m.log2 : Int) + 1) * 2 ^ q := by gcongr
      _ = 2 ^ ((m.log2 : Int) + 1 + q) := (zpow_add₀ two_ne_zero _ _).symm
      _ ≤ 10 ^ (g + 3) := two_zpow_le_ten_zpow (by omega) (by omega)
  unfold leadingPower
  simp only [← guess, lessThan_iff]
  -- The first guess may be too low by one or two.
  split
  · rename_i below
    exact ⟨low, below, by omega⟩
  · rename_i above
    split
    · rename_i below
      exact ⟨not_lt.mp above, below, by omega⟩
    · rename_i above'
      refine ⟨not_lt.mp above', ?_, by omega⟩
      rwa [show g + 1 + 1 + 1 = g + 3 by omega]

/-! ### The search -/

/-- A decimal of up to seventeen digits within a limit. -/
structure Fitting (limit : ℚ) (d : Decimal) : Prop where
  pos : 0 < d.digits
  few : d.digits ≤ tenTo 17
  within : d.digits * 10 ^ d.exponent ≤ limit
  least : -341 ≤ d.exponent

theorem Fitting.trim {limit : ℚ} {d : Decimal} (h : Fitting limit d) (fuel : Nat) :
    Fitting limit (d.trim fuel) := by
  induction fuel generalizing d with
  | zero => exact h
  | succ fuel ih =>
    rw [Decimal.trim]
    split
    · rename_i round
      have digits : d.digits = d.digits / 10 * 10 := by omega
      refine ih ⟨?_, Nat.le_trans (Nat.div_le_self _ _) h.few, ?_, ?_⟩
      · show 0 < d.digits / 10
        omega
      · calc ((d.digits / 10 : Nat) : ℚ) * 10 ^ (d.exponent + 1) =
            ((d.digits / 10 * 10 : Nat) : ℚ) * 10 ^ d.exponent := by
              rw [zpow_add_one₀ (by norm_num)]
              push_cast
              ring
          _ ≤ limit := by rw [← digits]; exact h.within
      · have := h.least
        show -341 ≤ d.exponent + 1
        omega
    · exact h

/-- On the grids that are tried, and on the last one, there are up to seventeen digits. -/
theorem floorOnGrid_lt (hm : m ≠ 0) (least : -1074 ≤ (m.log2 : Int) + q)
    (most : (m.log2 : Int) + q ≤ 1023) (fine : leadingPower m q - 16 ≤ k) :
    floorOnGrid m q k < tenTo 17 := by
  obtain ⟨-, high, -⟩ := leadingPower_bounds hm least most
  have below : (floorOnGrid m q k : ℚ) * 10 ^ k < tenTo 17 * 10 ^ k := by
    calc (floorOnGrid m q k : ℚ) * 10 ^ k ≤ m * 2 ^ q := (floorOnGrid_bounds m q k).1
      _ < 10 ^ (leadingPower m q + 1) := high
      _ ≤ 10 ^ (17 + k) := zpow_le_zpow_right₀ (by norm_num) (by omega)
      _ = tenTo 17 * 10 ^ k := by rw [zpow_add₀ (by norm_num), cast_tenTo]; norm_cast
  exact_mod_cast lt_of_mul_lt_mul_right below (by positivity)

theorem fitting_search (hm : m ≠ 0) (least : -1074 ≤ (m.log2 : Int) + q)
    (most : (m.log2 : Int) + q ≤ 1023) (tries : digits + fuel = 18) :
    Fitting (upperEnd m * 2 ^ (q - 2)) (shortest.search m q (leadingPower m q) digits fuel) := by
  obtain ⟨low, -, top⟩ := leadingPower_bounds hm least most
  induction fuel generalizing digits with
  | zero =>
    rw [shortest.search]
    obtain ⟨below, above⟩ := floorOnGrid_bounds m q (leadingPower m q - 16)
    have few := floorOnGrid_lt hm least most le_rfl
    refine ⟨?_, few.le, below.trans ?_, by show -341 ≤ leadingPower m q - 16; omega⟩
    · refine Nat.pos_of_ne_zero fun zero => ?_
      replace zero : floorOnGrid m q (leadingPower m q - 16) = 0 := zero
      have small := low.trans_lt above
      rw [zero, Nat.cast_zero, zero_add, one_mul] at small
      have := (zpow_lt_zpow_iff_right₀ (show (1 : ℚ) < 10 by norm_num)).mp small
      omega
    · have upper : ((4 * m : Nat) : ℚ) * 2 ^ (q - 2) = m * 2 ^ q := by
        rw [zpow_sub₀ two_ne_zero]
        push_cast
        ring
      rw [← upper]
      gcongr
      exact Nat.le_add_right _ _
  | succ fuel ih =>
    rw [shortest.search]
    split
    · rename_i d found
      obtain ⟨rounds, few⟩ := nearestOnGrid_eq_some found
      have seventeen := floorOnGrid_lt hm least most
        (show leadingPower m q - 16 ≤ leadingPower m q - (digits : Int) + 1 by omega)
      refine ⟨pos_of_roundsTo hm rounds, ?_, roundsTo_le rounds, ?_⟩
      · show d ≤ tenTo 17
        omega
      · show -341 ≤ leadingPower m q - (digits : Int) + 1
        omega
    · exact ih (by omega)

theorem log2_significand (finite : x.isFinite = true) (nonzero : x.significand ≠ 0) :
    -1074 ≤ (x.significand.log2 : Int) + x.scale ∧ (x.significand.log2 : Int) + x.scale ≤ 1023 := by
  have bits : x.significand.log2 < 53 := (Nat.log2_lt nonzero).mpr x.significand_lt
  have field : x.exponentField ≤ 2046 := by
    have rank : x.rank < 0x7FF0000000000000 := isFinite_iff.mp finite
    rw [exponentField_eq, leastNormal]
    omega
  unfold scale
  split <;> omega

theorem significand_ne_zero (h : x.isZero = false) : x.significand ≠ 0 := by
  have rank : x.rank ≠ 0 := fun zero => by
    rw [isZero, ← rank, zero] at h
    cases h
  have parts := Nat.div_add_mod x.rank leastNormal
  unfold significand
  rw [exponentField_eq, fraction_eq]
  unfold leastNormal at parts ⊢
  split <;> omega

/-- The shortest decimal of a number has up to seventeen digits, and rounds to the number. -/
theorem fitting_shortest (finite : x.isFinite = true) (nonzero : x.isZero = false) :
    Fitting (upperEnd x.significand * 2 ^ (x.scale - 2)) x.shortest := by
  have significand := significand_ne_zero nonzero
  obtain ⟨least, most⟩ := log2_significand finite significand
  exact (fitting_search significand least most rfl).trim 20

/-- A finite number has no more than 309 digits before the point. -/
theorem exponent_shortest_le (finite : x.isFinite = true) (nonzero : x.isZero = false) :
    x.shortest.exponent ≤ 308 := by
  have fitting := fitting_shortest finite nonzero
  have scale : x.scale ≤ 971 := by
    have rank : x.rank < 0x7FF0000000000000 := isFinite_iff.mp finite
    unfold scale
    rw [exponentField_eq, leastNormal]
    split <;> omega
  have significand : upperEnd x.significand ≤ 2 ^ 55 * 2 ^ 0 := by
    have : x.significand < 2 * 0x10000000000000 := x.significand_lt
    unfold upperEnd
    omega
  have digit : (1 : ℚ) ≤ x.shortest.digits := by exact_mod_cast fitting.pos
  have power : (10 : ℚ) ^ x.shortest.exponent < 10 ^ (309 : Int) := by
    calc (10 : ℚ) ^ x.shortest.exponent ≤ x.shortest.digits * 10 ^ x.shortest.exponent :=
          le_mul_of_one_le_left (by positivity) digit
      _ ≤ upperEnd x.significand * 2 ^ (x.scale - 2) := fitting.within
      _ ≤ (2 ^ 55 : Nat) * 2 ^ (969 : Int) := scaled_le_scaled 0 (by omega) significand
      _ = 2 ^ (1024 : Int) := by
        rw [Nat.cast_pow, Nat.cast_ofNat, ← zpow_natCast, ← zpow_add₀ two_ne_zero]
        rfl
      _ < 2 ^ (1025 : Int) := zpow_lt_zpow_right₀ one_lt_two (by decide)
      _ ≤ 10 ^ (309 : Int) := two_zpow_le_ten_zpow (by decide) (by decide)
  have := (zpow_lt_zpow_iff_right₀ (show (1 : ℚ) < 10 by norm_num)).mp power
  omega

/-- Below the greatest number, what rounds to a number stays below the ceiling. -/
theorem upperEnd_le_ceiling (finite : x.isFinite = true) (less : x.rank ≠ greatest.rank) :
    (upperEnd x.significand : ℚ) * 2 ^ (x.scale - 2) ≤ ceiling := by
  have rank : x.rank < 0x7FF0000000000000 := isFinite_iff.mp finite
  have top : greatest.rank = 0x7FEFFFFFFFFFFFFF := by decide
  rw [top] at less
  have parts := Nat.div_add_mod x.rank leastNormal
  have low := Nat.mod_lt x.rank (show 0 < leastNormal by decide)
  have limit : (ceiling : ℚ) = (4 * leastNormal - 3 : Nat) * 2 ^ (970 : Int) := by
    rw [ceiling, Nat.cast_mul, Nat.cast_pow, Nat.cast_ofNat, zpow_ofNat]
  rw [limit]
  unfold significand scale upperEnd
  rw [exponentField_eq, fraction_eq]
  generalize x.rank / leastNormal = f at *
  generalize x.rank % leastNormal = r at *
  unfold leastNormal at *
  split
  · exact scaled_le_scaled 2 (by decide) (by omega)
  · by_cases last : f = 2046
    · exact scaled_le_scaled 1 (by omega) (by omega)
    · exact scaled_le_scaled 2 (by omega) (by omega)

theorem parts_of_rank (h : x.rank = y.rank) :
    x.significand = y.significand ∧ x.scale = y.scale := by
  unfold significand scale
  rw [exponentField_eq, exponentField_eq, fraction_eq, fraction_eq, h]
  exact ⟨rfl, rfl⟩

theorem shortest_greatest : greatest.shortest = ⟨17976931348623157, 292⟩ := by
  decide +kernel

/-- The shortest decimal of a finite number is read as a finite number. -/
theorem exists_ofDecimal_shortest (negative : Bool) (finite : x.isFinite = true)
    (nonzero : x.isZero = false) : ∃ y, y.isFinite = true ∧
      ofDecimal negative x.shortest.digits x.shortest.exponent = some y := by
  have fitting := fitting_shortest finite nonzero
  by_cases top : x.rank = greatest.rank
  · -- What lies between the greatest number and the numbers that are too large is not all read as
    -- finite; its shortest decimal is.
    have same : x.shortest = greatest.shortest := by
      obtain ⟨significand, scale⟩ := parts_of_rank top
      rw [shortest, shortest, significand, scale]
    rw [same, shortest_greatest]
    refine exists_ofDecimal_of_go negative ⟨_, ?_, go_of_nonneg (by decide) (by decide) ?_⟩ <;>
      decide +kernel
  have within := fitting.within.trans (upperEnd_le_ceiling finite top)
  rcases le_total x.shortest.exponent 0 with nonpos | nonneg
  · refine exists_ofDecimal_of_nonpos negative ?_ nonpos
    exact Nat.lt_of_le_of_lt fitting.few (by decide)
  · obtain ⟨k, same⟩ := Int.eq_ofNat_of_zero_le nonneg
    rw [same] at within nonneg ⊢
    have below : x.shortest.digits * tenTo (k : Int).toNat ≤ ceiling := by
      refine Nat.cast_le.mp (le_of_eq_of_le ?_ within)
      rw [Int.toNat_natCast, Nat.cast_mul, cast_tenTo, zpow_natCast]
    exact exists_ofDecimal_of_le negative fitting.few nonneg
      (same ▸ exponent_shortest_le finite nonzero) below

end DuplexRpc.Double

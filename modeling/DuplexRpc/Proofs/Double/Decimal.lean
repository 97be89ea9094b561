import DuplexRpc.Proofs.Double.Rounding

/-! Decimals that are read as finite numbers: all without a positive power of ten, and with one those
that stay below the greatest number. -/

namespace DuplexRpc.Double

variable {x : Double} {n s k : Nat} {e : Int}

theorem one_le_magnitude_ofNat (h : n ≠ 0) : 1 ≤ (ofNat n).magnitude := by
  have one : (ofNat 1).magnitude = 1 := by
    have parts : (ofNat 1).significand = 2 ^ 52 ∧ (ofNat 1).scale = -52 := by decide
    rw [magnitude, parts.1, parts.2]
    norm_num
  rw [← one]
  exact magnitude_le_magnitude (rank_ofNat_le (Nat.one_le_iff_ne_zero.mpr h))

theorem cast_tenTo (k : Nat) : ((tenTo k : Nat) : ℚ) = 10 ^ k :=
  Nat.cast_pow 10 k

theorem tenTo_ne_zero (k : Nat) : tenTo k ≠ 0 :=
  Nat.ne_of_gt (Nat.pow_pos (by decide))

theorem isFinite_div_tenTo (hx : x.isFinite = true) (k : Nat) :
    (div x (ofNat (tenTo k))).isFinite = true :=
  isFinite_div hx (one_le_magnitude_ofNat (tenTo_ne_zero k))

theorem tenTo_le_tenTo {l : Nat} (h : k ≤ l) : tenTo k ≤ tenTo l :=
  Nat.pow_le_pow_right (by decide) h

/-- What is divided by powers of ten stays finite, however often. -/
theorem exists_go_of_neg (x : Double) (e : Int) (hx : x.isFinite = true) (he : e < 0) :
    ∃ y, y.isFinite = true ∧ ofDecimal.go x e = some y := by
  rw [ofDecimal.go, if_neg (by omega), if_neg (by omega)]
  split
  · exact ⟨_, isFinite_div_tenTo hx _, rfl⟩
  · split
    · exact ⟨x, hx, rfl⟩
    · exact exists_go_of_neg _ (e + 308) (isFinite_div_tenTo hx 308) (by omega)
termination_by (-e).toNat

theorem go_of_nonneg (he : 0 ≤ e) (small : e ≤ 308)
    (finite : (mul x (ofNat (tenTo e.toNat))).isFinite = true) :
    ofDecimal.go x e = some (mul x (ofNat (tenTo e.toNat))) := by
  rw [ofDecimal.go, if_neg (by omega), if_pos he]
  exact if_pos finite

theorem exists_ofDecimal_of_go (negative : Bool)
    (read : ∃ y, y.isFinite = true ∧ ofDecimal.go (ofNat s) e = some y) :
    ∃ y, y.isFinite = true ∧ ofDecimal negative s e = some y := by
  obtain ⟨y, finite, found⟩ := read
  refine ⟨if negative then neg y else y, ?_, by simp only [ofDecimal, found, Option.map_some]⟩
  split
  · rw [isFinite_iff, rank_neg]
    exact isFinite_iff.mp finite
  · exact finite

/-- A decimal of 64 bits without a positive power of ten is read as a finite number. -/
theorem exists_ofDecimal_of_nonpos (negative : Bool) (small : s < 0x10000000000000000) (he : e ≤ 0) :
    ∃ y, y.isFinite = true ∧ ofDecimal negative s e = some y := by
  refine exists_ofDecimal_of_go negative ?_
  have whole : (ofNat s).rank ≤ (ofNat 0x10000000000000000).rank := rank_ofNat_le small.le
  rcases he.lt_or_eq with below | rfl
  · exact exists_go_of_neg _ e (isFinite_of_rank_le whole (by decide)) below
  · refine ⟨_, ?_, go_of_nonneg le_rfl (by decide) ?_⟩ <;>
      exact isFinite_of_rank_le (rank_mul_le (magnitude_le_magnitude whole) le_rfl) (by decide)

/-- The end of the numbers that round to the greatest number but one. -/
def ceiling : Nat :=
  (4 * leastNormal - 3) * 2 ^ 970

/-- The greatest decimals of seventeen digits below the ceiling are read as finite numbers. -/
theorem isFinite_mul_ceiling : ∀ i < 18,
    (mul (ofNat (min (tenTo 17) (ceiling / tenTo (291 + i)))) (ofNat (tenTo (291 + i)))).isFinite =
      true := by
  decide +kernel

/-- So are all others. -/
theorem exists_ofDecimal_of_le (negative : Bool) (few : s ≤ tenTo 17) (he : 0 ≤ e) (small : e ≤ 308)
    (below : s * tenTo e.toNat ≤ ceiling) :
    ∃ y, y.isFinite = true ∧ ofDecimal negative s e = some y := by
  have product : (mul (ofNat s) (ofNat (tenTo e.toNat))).isFinite = true := by
    rcases Nat.le_total e.toNat 291 with low | high
    · have room : tenTo 17 ≤ ceiling / tenTo 291 := by decide +kernel
      have least : s ≤ min (tenTo 17) (ceiling / tenTo 291) := le_min few (few.trans room)
      have finite := isFinite_mul_ceiling 0 (by decide)
      rw [Nat.add_zero] at finite
      exact isFinite_of_rank_le (rank_mul_le (magnitude_le_magnitude (rank_ofNat_le least))
        (magnitude_le_magnitude (rank_ofNat_le (tenTo_le_tenTo low)))) finite
    · obtain ⟨i, same⟩ := Nat.exists_eq_add_of_le high
      have least : s ≤ min (tenTo 17) (ceiling / tenTo e.toNat) :=
        le_min few ((Nat.le_div_iff_mul_le (Nat.pos_of_ne_zero (tenTo_ne_zero _))).mpr below)
      rw [same] at least ⊢
      exact isFinite_of_rank_le (rank_mul_le (magnitude_le_magnitude (rank_ofNat_le least)) le_rfl)
        (isFinite_mul_ceiling i (by omega))
  exact exists_ofDecimal_of_go negative ⟨_, product, go_of_nonneg he small product⟩

end DuplexRpc.Double

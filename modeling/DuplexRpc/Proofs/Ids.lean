import DuplexRpc.IdSource

/-! Equality of ids: `Id.same` is an equivalence, and on integers and texts it is equality. And the
ids that a source hands out: `Distinct` says that the first of them are pairwise different. -/

namespace DuplexRpc

theorem Double.same_refl (x : Double) : x.same x = true := by
  simp [Double.same]

theorem Double.same_symm {x y : Double} (h : x.same y = true) : y.same x = true := by
  simp only [Double.same, Bool.or_eq_true, Bool.and_eq_true, beq_iff_eq] at h ⊢
  exact h.imp Eq.symm And.symm

theorem Double.same_trans {x y z : Double} (h : x.same y = true) (h' : y.same z = true) :
    x.same z = true := by
  simp only [Double.same, Bool.or_eq_true, Bool.and_eq_true, beq_iff_eq] at h h' ⊢
  rcases h with rfl | ⟨hx, hy⟩
  · exact h'
  · rcases h' with rfl | ⟨-, hz⟩
    · exact Or.inr ⟨hx, hy⟩
    · exact Or.inr ⟨hx, hz⟩

namespace Number

theorem same_refl (n : Number) : n.same n = true := by
  cases n with
  | int i _ => exact beq_self_eq_true i
  | float x _ => exact x.same_refl

theorem same_symm {m n : Number} (h : m.same n = true) : n.same m = true := by
  cases m <;> cases n <;> simp only [same, Bool.false_eq_true] at h ⊢
  · exact beq_iff_eq.mpr (beq_iff_eq.mp h).symm
  · exact Double.same_symm h

theorem same_trans {l m n : Number} (h : l.same m = true) (h' : m.same n = true) :
    l.same n = true := by
  cases l <;> cases m <;> cases n <;> simp only [same, Bool.false_eq_true] at h h' ⊢
  · exact beq_iff_eq.mpr ((beq_iff_eq.mp h).trans (beq_iff_eq.mp h'))
  · exact Double.same_trans h h'

end Number

namespace Id

theorem same_refl (i : Id) : i.same i = true := by
  cases i with
  | num n => exact n.same_refl
  | str s => exact beq_self_eq_true s

theorem same_symm {i j : Id} (h : i.same j = true) : j.same i = true := by
  cases i <;> cases j <;> simp only [same, Bool.false_eq_true] at h ⊢
  · exact Number.same_symm h
  · exact beq_iff_eq.mpr (beq_iff_eq.mp h).symm

theorem same_trans {i j k : Id} (h : i.same j = true) (h' : j.same k = true) :
    i.same k = true := by
  cases i <;> cases j <;> cases k <;> simp only [same, Bool.false_eq_true] at h h' ⊢
  · exact Number.same_trans h h'
  · exact beq_iff_eq.mpr ((beq_iff_eq.mp h).trans (beq_iff_eq.mp h'))

theorem same_comm (i j : Id) : i.same j = j.same i := by
  rw [Bool.eq_iff_iff]
  exact ⟨same_symm, same_symm⟩

/-- An id that equals one of two equal ids equals the other. -/
theorem same_congr {i j : Id} (h : i.same j = true) (k : Id) : i.same k = j.same k := by
  rw [Bool.eq_iff_iff]
  exact ⟨same_trans (same_symm h), same_trans h⟩

theorem eq_of_ofInt64_same {i j : Int64} (h : (ofInt64 i).same (ofInt64 j) = true) : i = j :=
  Int64.toInt_inj.mp (beq_iff_eq.mp h)

end Id

namespace IdSource

theorem takeMany_succ (source : IdSource) (count : Nat) :
    source.takeMany (count + 1) = source.take.1 :: source.take.2.takeMany count := rfl

/-- The source after `count` ids were taken. -/
def after (source : IdSource) : (count : Nat) → IdSource
  | 0 => source
  | count + 1 => (source.after count).take.2

theorem takeMany_succ_last (source : IdSource) (count : Nat) :
    source.takeMany (count + 1) = source.takeMany count ++ [(source.after count).take.1] := by
  have shift : ∀ (source : IdSource) (count : Nat),
      source.take.2.after count = source.after (count + 1) := by
    intro source count
    induction count with
    | zero => rfl
    | succ count ih => exact congrArg (·.take.2) ih
  induction count generalizing source with
  | zero => rfl
  | succ count ih =>
    rw [takeMany_succ, ih, shift, takeMany_succ, List.cons_append]

theorem after_add (source : IdSource) (m n : Nat) : source.after (m + n) = (source.after m).after n := by
  induction n with
  | zero => rfl
  | succ n ih => exact congrArg (·.take.2) ih

theorem takeMany_add (source : IdSource) (m n : Nat) :
    source.takeMany (m + n) = source.takeMany m ++ (source.after m).takeMany n := by
  induction n with
  | zero => exact (List.append_nil _).symm
  | succ n ih => rw [← Nat.add_assoc, takeMany_succ_last, takeMany_succ_last, ih, after_add,
      List.append_assoc]

theorem length_takeMany (source : IdSource) (count : Nat) : (source.takeMany count).length = count := by
  induction count generalizing source with
  | zero => rfl
  | succ count ih => exact congrArg (· + 1) (ih source.take.2)

theorem takeMany_sublist (source : IdSource) (count : Nat) :
    (source.takeMany count).Sublist (source.takeMany (count + 1)) := by
  rw [takeMany_succ_last]
  exact List.sublist_append_left _ _

/-- The first `count` ids of a source are pairwise different. -/
def Distinct (source : IdSource) (count : Nat) : Prop :=
  (source.takeMany count).Pairwise fun i j => i.same j = false

theorem Distinct.of_succ {source : IdSource} {count : Nat} (h : source.Distinct (count + 1)) :
    source.Distinct count :=
  List.Pairwise.sublist (source.takeMany_sublist count) h

/-- The next id differs from all before it. -/
theorem Distinct.next {source : IdSource} {count : Nat} (h : source.Distinct (count + 1)) {i : Id}
    (hi : i ∈ source.takeMany count) : i.same (source.after count).take.1 = false := by
  rw [Distinct, takeMany_succ_last] at h
  exact (List.pairwise_append.mp h).2.2 i hi _ List.mem_cons_self

instance (source : IdSource) (count : Nat) : Decidable (source.Distinct count) :=
  inferInstanceAs (Decidable (List.Pairwise _ _))

/-! ### Counters -/

theorem after_sequence (next : Int64) (count : Nat) :
    (sequence next).after count = .sequence (next + .ofNat count) := by
  induction count with
  | zero => simp [after]
  | succ count ih =>
    rw [after, ih]
    simp [take, Int64.ofNat_add, Int64.add_assoc]

theorem mem_takeMany_sequence {next : Int64} {count : Nat} {i : Id}
    (h : i ∈ (sequence next).takeMany count) : ∃ k < count, i = .ofInt64 (next + .ofNat k) := by
  induction count with
  | zero => exact absurd h List.not_mem_nil
  | succ count ih =>
    rw [takeMany_succ_last, after_sequence, List.mem_append] at h
    rcases h with before | last
    · obtain ⟨k, lt, same⟩ := ih before
      exact ⟨k, Nat.lt_succ_of_lt lt, same⟩
    · exact ⟨count, Nat.lt_succ_self count, List.mem_singleton.mp last⟩

/-- The ids of a counter are different until it has counted through all integers of 64 bits. -/
theorem distinct_sequence (next : Int64) {count : Nat} (h : count ≤ 0x10000000000000000) :
    (sequence next).Distinct count := by
  induction count with
  | zero => exact List.Pairwise.nil
  | succ count ih =>
    rw [Distinct, takeMany_succ_last, after_sequence, List.pairwise_append]
    refine ⟨ih (by omega), List.pairwise_singleton _ _, fun i hi j hj => ?_⟩
    obtain ⟨k, lt, rfl⟩ := mem_takeMany_sequence hi
    rw [List.mem_singleton.mp hj]
    refine Bool.eq_false_iff.mpr fun same => ?_
    have steps : Int64.ofNat k = .ofNat count := (Int64.add_right_inj next).mp (Id.eq_of_ofInt64_same same)
    have bits := congrArg BitVec.toNat (congrArg Int64.toBitVec steps)
    rw [Int64.toBitVec_ofNat', Int64.toBitVec_ofNat', BitVec.toNat_ofNat, BitVec.toNat_ofNat,
      Nat.mod_eq_of_lt (by omega), Nat.mod_eq_of_lt (by omega)] at bits
    omega

end IdSource

end DuplexRpc

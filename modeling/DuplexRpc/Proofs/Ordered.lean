import DuplexRpc.Proofs.Fields
import DuplexRpc.Proofs.Message.Carried
import DuplexRpc.Proofs.Value

/-! Values whose entries stand in order. A wire format gives them back as they are, and so it does
with errors of a kind that their code tells, whose data are not null. A value whose entries are put
in order stays within the limits of the formats. -/

namespace DuplexRpc

namespace Value

mutual

/-- The entries of every object stand in rising order of their names. -/
def IsOrdered : Value → Prop
  | .arr items => AreOrdered items
  | .obj fields => Fields.Sorted fields ∧ FieldsOrdered fields
  | _ => True

def AreOrdered : List Value → Prop
  | [] => True
  | v :: vs => IsOrdered v ∧ AreOrdered vs

def FieldsOrdered : List (String × Value) → Prop
  | [] => True
  | (_, v) :: fs => IsOrdered v ∧ FieldsOrdered fs

end

theorem areOrdered_iff {vs : List Value} : AreOrdered vs ↔ ∀ v ∈ vs, v.IsOrdered := by
  induction vs with
  | nil => simp [AreOrdered]
  | cons v vs ih => simp [AreOrdered, ih]

theorem fieldsOrdered_iff {fs : List (String × Value)} :
    FieldsOrdered fs ↔ ∀ e ∈ fs, e.2.IsOrdered := by
  induction fs with
  | nil => simp [FieldsOrdered]
  | cons e fs ih => simp [FieldsOrdered, ih]

mutual

theorem sorted_of_isOrdered (v : Value) (h : v.IsOrdered) : v.sorted = v := by
  cases v with
  | arr items =>
    rw [sorted, sortedItems_of_areOrdered items h]
  | obj fields =>
    rw [sorted, sortedFields_of_fieldsOrdered fields h.2, ofFields, Fields.ofList_of_sorted h.1]
  | _ => rfl

theorem sortedItems_of_areOrdered (vs : List Value) (h : AreOrdered vs) : sortedItems vs = vs := by
  cases vs with
  | nil => rfl
  | cons v vs => rw [sortedItems, sorted_of_isOrdered v h.1, sortedItems_of_areOrdered vs h.2]

theorem sortedFields_of_fieldsOrdered (fs : List (String × Value)) (h : FieldsOrdered fs) :
    sortedFields fs = fs := by
  cases fs with
  | nil => rfl
  | cons e fs =>
    obtain ⟨name, v⟩ := e
    rw [sortedFields, sorted_of_isOrdered v h.1, sortedFields_of_fieldsOrdered fs h.2]

end

theorem isOrdered_ofFields {entries : List (String × Value)} (h : ∀ e ∈ entries, e.2.IsOrdered) :
    (ofFields entries).IsOrdered := by
  refine ⟨Fields.sorted_ofList entries, fieldsOrdered_iff.mpr ?_⟩
  intro e he
  exact h e (Fields.mem_ofList he)

/-! ### Entries put in order -/

theorem depthFields_le {fs : List (String × Value)} {n : Nat} :
    depthFields fs ≤ n ↔ ∀ e ∈ fs, e.2.depth ≤ n := by
  induction fs with
  | nil => simp [depthFields]
  | cons e fs ih => rw [depthFields, Nat.max_le, ih, List.forall_mem_cons]

theorem fieldsIntegral_iff {fs : List (String × Value)} :
    fieldsIntegral fs = true ↔ ∀ e ∈ fs, e.2.isIntegral = true := by
  induction fs with
  | nil => simp [fieldsIntegral]
  | cons e fs ih => simp [fieldsIntegral, ih]

theorem depth_ofFields_le (entries : List (String × Value)) :
    (ofFields entries).depth ≤ depthFields entries + 1 := by
  apply Nat.succ_le_succ
  apply depthFields_le.mpr
  intro e he
  exact depthFields_le.mp (Nat.le_refl _) e (Fields.mem_ofList he)

theorem isIntegral_ofFields {entries : List (String × Value)} (h : fieldsIntegral entries = true) :
    (ofFields entries).isIntegral = true := by
  apply fieldsIntegral_iff.mpr
  intro e he
  exact fieldsIntegral_iff.mp h e (Fields.mem_ofList he)

mutual

theorem isOrdered_sorted (v : Value) : v.sorted.IsOrdered := by
  cases v with
  | arr items => exact areOrdered_sortedItems items
  | obj fields =>
    exact isOrdered_ofFields (fieldsOrdered_iff.mp (fieldsOrdered_sortedFields fields))
  | _ => trivial

theorem areOrdered_sortedItems (vs : List Value) : AreOrdered (sortedItems vs) := by
  cases vs with
  | nil => trivial
  | cons v vs => exact ⟨isOrdered_sorted v, areOrdered_sortedItems vs⟩

theorem fieldsOrdered_sortedFields (fs : List (String × Value)) :
    FieldsOrdered (sortedFields fs) := by
  cases fs with
  | nil => trivial
  | cons e fs =>
    obtain ⟨name, v⟩ := e
    exact ⟨isOrdered_sorted v, fieldsOrdered_sortedFields fs⟩

end

mutual

theorem depth_sorted_le (v : Value) : v.sorted.depth ≤ v.depth := by
  cases v with
  | arr items => exact Nat.succ_le_succ (depthItems_sortedItems_le items)
  | obj fields =>
    have shallow := depthFields_sortedFields_le fields
    exact Nat.le_trans (depth_ofFields_le _) (Nat.succ_le_succ shallow)
  | _ => exact Nat.le_refl _

theorem depthItems_sortedItems_le (vs : List Value) :
    depthItems (sortedItems vs) ≤ depthItems vs := by
  cases vs with
  | nil => exact Nat.le_refl _
  | cons v vs =>
    have first := depth_sorted_le v
    have others := depthItems_sortedItems_le vs
    simp only [sortedItems, depthItems]
    omega

theorem depthFields_sortedFields_le (fs : List (String × Value)) :
    depthFields (sortedFields fs) ≤ depthFields fs := by
  cases fs with
  | nil => exact Nat.le_refl _
  | cons e fs =>
    obtain ⟨name, v⟩ := e
    have first := depth_sorted_le v
    have others := depthFields_sortedFields_le fs
    simp only [sortedFields, depthFields]
    omega

end

mutual

theorem isIntegral_sorted (v : Value) (h : v.isIntegral = true) : v.sorted.isIntegral = true := by
  cases v with
  | arr items => exact areIntegral_sortedItems items h
  | obj fields => exact isIntegral_ofFields (fieldsIntegral_sortedFields fields h)
  | _ => exact h

theorem areIntegral_sortedItems (vs : List Value) (h : areIntegral vs = true) :
    areIntegral (sortedItems vs) = true := by
  cases vs with
  | nil => rfl
  | cons v vs =>
    obtain ⟨first, others⟩ := Bool.and_eq_true_iff.mp h
    exact Bool.and_eq_true_iff.mpr ⟨isIntegral_sorted v first, areIntegral_sortedItems vs others⟩

theorem fieldsIntegral_sortedFields (fs : List (String × Value)) (h : fieldsIntegral fs = true) :
    fieldsIntegral (sortedFields fs) = true := by
  cases fs with
  | nil => rfl
  | cons e fs =>
    obtain ⟨name, v⟩ := e
    obtain ⟨first, others⟩ := Bool.and_eq_true_iff.mp h
    exact Bool.and_eq_true_iff.mpr
      ⟨isIntegral_sorted v first, fieldsIntegral_sortedFields fs others⟩

end

end Value

/-- The error is carried as it is: its kind is the one of its code, and its data are not null. -/
structure RpcError.IsPlain (e : RpcError) : Prop where
  kind : e.kind = .ofCode e.kind.code
  data : ∀ v ∈ e.data, v.isNull = false ∧ v.IsOrdered

theorem RpcError.carried_of_isPlain {e : RpcError} (h : e.IsPlain) : e.carried = e := by
  obtain ⟨kind, message, data⟩ := e
  have code : ErrorKind.ofCode kind.code = kind := h.kind.symm
  cases data with
  | none => simp [carried, code]
  | some v =>
    obtain ⟨there, ordered⟩ := h.data v rfl
    simp [carried, code, v.sorted_of_isOrdered ordered, there]

theorem Request.carried_of_isOrdered {r : Request} (h : ∀ v ∈ r.params, v.IsOrdered) :
    r.carried = r := by
  obtain ⟨id, method, params⟩ := r
  cases params with
  | none => rfl
  | some v => simp [carried, v.sorted_of_isOrdered (h v rfl)]

end DuplexRpc

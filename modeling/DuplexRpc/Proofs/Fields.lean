import DuplexRpc.Value.Fields

/-! Entries that stand in rising order of their names. What is put in is found under its name, and
entries that stand in order already stay where they are. -/

namespace DuplexRpc.Fields

variable {β : Type} {name name' : String} {x : β} {fields entries : List (String × β)}

/-! ### Looking up -/

theorem get?_insert_self : get? name (insert name x fields) = some x := by
  induction fields with
  | nil => simp only [insert, get?, if_true]
  | cons entry rest ih =>
    obtain ⟨other, y⟩ := entry
    simp only [insert]
    split
    · simp only [get?, if_true]
    · split
      · simp only [get?, if_true]
      · rename_i different
        simp only [get?, if_neg different, ih]

theorem get?_insert_of_ne (h : name' ≠ name) :
    get? name' (insert name x fields) = get? name' fields := by
  induction fields with
  | nil => simp only [insert, get?, if_neg h]
  | cons entry rest ih =>
    obtain ⟨other, y⟩ := entry
    simp only [insert]
    split
    · simp only [get?, if_neg h]
    · split
      · rename_i same
        subst same
        simp only [get?, if_neg h]
      · simp only [get?, ih]

theorem get?_erase_of_ne (h : name' ≠ name) :
    get? name' (erase name fields) = get? name' fields := by
  induction fields with
  | nil => rfl
  | cons entry rest ih =>
    obtain ⟨other, y⟩ := entry
    simp only [erase]
    split
    · rename_i same
      subst same
      simp only [get?, if_neg h]
    · simp only [get?, ih]

theorem erase_sublist : (erase name fields).Sublist fields := by
  induction fields with
  | nil => exact List.Sublist.refl _
  | cons entry rest ih =>
    obtain ⟨other, y⟩ := entry
    simp only [erase]
    split
    · exact List.sublist_cons_self _ _
    · exact ih.cons_cons _

theorem get?_eq_none (h : name ∉ fields.map (·.1)) : get? name fields = none := by
  induction fields with
  | nil => rfl
  | cons entry rest ih =>
    obtain ⟨other, y⟩ := entry
    rw [List.map_cons, List.mem_cons, not_or] at h
    rw [get?, if_neg h.1, ih h.2]

/-- Where no name stands twice, what was taken out is gone. -/
theorem get?_erase_self (distinct : (fields.map (·.1)).Nodup) :
    get? name (erase name fields) = none := by
  induction fields with
  | nil => rfl
  | cons entry rest ih =>
    obtain ⟨other, y⟩ := entry
    obtain ⟨absent, others⟩ := List.nodup_cons.mp distinct
    simp only [erase]
    split
    · rename_i same
      exact get?_eq_none (same ▸ absent)
    · rename_i different
      rw [get?, if_neg different, ih others]

/-- What is put in under other names hides nothing. -/
theorem get?_foldl_insert (h : ∀ e ∈ entries, name ≠ e.1) :
    get? name (entries.foldl (fun fields e => insert e.1 e.2 fields) fields) =
      get? name fields := by
  induction entries generalizing fields with
  | nil => rfl
  | cons e entries ih =>
    rw [List.foldl_cons, ih fun e' he' => h e' (List.mem_cons_of_mem _ he')]
    exact get?_insert_of_ne (h e List.mem_cons_self)

/-- Of entries with different names each is found. -/
theorem get?_ofList (distinct : (entries.map (·.1)).Nodup) (h : (name, x) ∈ entries) :
    get? name (ofList entries) = some x := by
  obtain ⟨before, after, rfl⟩ := List.append_of_mem h
  rw [List.map_append, List.map_cons, List.nodup_append, List.nodup_cons] at distinct
  obtain ⟨-, ⟨absent, -⟩, -⟩ := distinct
  rw [ofList, List.foldl_append, List.foldl_cons, get?_foldl_insert, get?_insert_self]
  intro e he same
  exact absent (List.mem_map.mpr ⟨e, he, same.symm⟩)

/-! ### Order -/

theorem mem_insert {e : String × β} (h : e ∈ insert name x fields) :
    e = (name, x) ∨ e ∈ fields := by
  induction fields with
  | nil => exact Or.inl (List.mem_singleton.mp h)
  | cons entry rest ih =>
    obtain ⟨other, y⟩ := entry
    simp only [insert] at h
    split at h
    · exact List.mem_cons.mp h
    · split at h
      · exact (List.mem_cons.mp h).imp_right (List.mem_cons_of_mem _)
      · rcases List.mem_cons.mp h with head | tail
        · exact Or.inr (head ▸ List.mem_cons_self)
        · exact (ih tail).imp_right (List.mem_cons_of_mem _)

theorem mem_ofList {e : String × β} (h : e ∈ ofList entries) : e ∈ entries := by
  have step : ∀ fields : List (String × β),
      e ∈ entries.foldl (fun fields e => insert e.1 e.2 fields) fields → e ∈ fields ∨ e ∈ entries := by
    clear h
    induction entries with
    | nil => exact fun _ he => Or.inl he
    | cons first entries ih =>
      intro fields he
      rcases ih _ he with inserted | later
      · rcases mem_insert inserted with rfl | old
        · exact Or.inr List.mem_cons_self
        · exact Or.inl old
      · exact Or.inr (List.mem_cons_of_mem _ later)
  exact (step [] h).resolve_left List.not_mem_nil

theorem sorted_insert (h : Sorted fields) : Sorted (insert name x fields) := by
  induction fields with
  | nil => exact List.pairwise_singleton _ _
  | cons entry rest ih =>
    obtain ⟨other, y⟩ := entry
    obtain ⟨least, tail⟩ := List.pairwise_cons.mp h
    simp only [insert]
    split
    · rename_i less
      refine List.pairwise_cons.mpr ⟨?_, h⟩
      intro e he
      rcases List.mem_cons.mp he with rfl | later
      · exact less
      · exact String.lt_trans less (least e later)
    · rename_i notLess
      split
      · rename_i same
        subst same
        exact List.pairwise_cons.mpr ⟨least, tail⟩
      · rename_i different
        refine List.pairwise_cons.mpr ⟨?_, ih tail⟩
        intro e he
        rcases mem_insert he with rfl | old
        · refine String.not_le.mp fun le => different ?_
          exact String.le_antisymm le (String.not_lt.mp notLess)
        · exact least e old

theorem Sorted.nodup (h : Sorted fields) : (fields.map (·.1)).Nodup :=
  List.pairwise_map.mpr (h.imp fun less => String.ne_of_lt less)

theorem sorted_ofList (entries : List (String × β)) : Sorted (ofList entries) := by
  have step : ∀ fields : List (String × β), Sorted fields →
      Sorted (entries.foldl (fun fields e => insert e.1 e.2 fields) fields) := by
    induction entries with
    | nil => exact fun _ h => h
    | cons e entries ih => exact fun fields h => ih _ (sorted_insert h)
  exact step [] List.Pairwise.nil

theorem insert_of_greater (h : ∀ e ∈ fields, e.1 < name) :
    insert name x fields = fields ++ [(name, x)] := by
  induction fields with
  | nil => rfl
  | cons entry rest ih =>
    obtain ⟨other, y⟩ := entry
    have less : other < name := h _ List.mem_cons_self
    rw [insert, if_neg (String.lt_asymm less), if_neg (String.ne_of_lt less).symm,
      ih fun e he => h e (List.mem_cons_of_mem _ he), List.cons_append]

theorem ofList_of_sorted (h : Sorted entries) : ofList entries = entries := by
  have step : ∀ fields : List (String × β), Sorted (fields ++ entries) →
      entries.foldl (fun fields e => insert e.1 e.2 fields) fields = fields ++ entries := by
    clear h
    induction entries with
    | nil => exact fun fields _ => (List.append_nil fields).symm
    | cons e entries ih =>
      intro fields sorted
      have last : ∀ f ∈ fields, f.1 < e.1 := by
        intro f hf
        exact (List.pairwise_append.mp sorted).2.2 f hf e List.mem_cons_self
      rw [List.foldl_cons, insert_of_greater last, ih, List.append_assoc, List.singleton_append]
      rwa [List.append_assoc, List.singleton_append]
  exact step [] h

end DuplexRpc.Fields

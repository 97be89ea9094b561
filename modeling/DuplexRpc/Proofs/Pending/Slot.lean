import DuplexRpc.Pending.Slot

/-! The slot of a ticket after each change to the slots: a vacant slot can be settled once, and no
change to one ticket touches the slot of another. -/

namespace DuplexRpc

/-- A slot after an attempt to settle it: a vacant slot takes the new state. -/
def Slot.settled (new : Slot) : Slot → Slot
  | .vacant => new
  | s => s

namespace Slots

variable {slots : Slots} {ticket other : Nat} {slot : Slot}

@[simp] theorem find?_nil (ticket : Nat) : find? [] ticket = none := rfl

theorem find?_cons (t : Nat) (s : Slot) (slots : Slots) (ticket : Nat) :
    find? ((t, s) :: slots) ticket = if ticket = t then some s else find? slots ticket := by
  simp only [find?, List.lookup_cons]
  by_cases h : ticket = t
  · simp [h]
  · rw [beq_false_of_ne h, if_neg h]

theorem settle_cons (t : Nat) (s : Slot) (slots : Slots) (ticket : Nat) (slot : Slot) :
    settle ((t, s) :: slots) ticket slot =
      (t, if t = ticket then slot.settled s else s) :: settle slots ticket slot := by
  simp only [settle, List.map_cons]
  by_cases h : t = ticket
  · subst h
    cases s <;> simp [Slot.settled]
  · rw [beq_false_of_ne h, if_neg h]

theorem find?_settle_of_ne (h : other ≠ ticket) :
    (slots.settle ticket slot).find? other = slots.find? other := by
  induction slots with
  | nil => rfl
  | cons head rest ih =>
    obtain ⟨t, s⟩ := head
    rw [settle_cons, find?_cons, find?_cons, ih]
    by_cases ht : other = t
    · subst ht
      rw [if_pos rfl, if_pos rfl, if_neg h]
    · rw [if_neg ht, if_neg ht]

theorem find?_settle_self :
    (slots.settle ticket slot).find? ticket = (slots.find? ticket).map slot.settled := by
  induction slots with
  | nil => rfl
  | cons head rest ih =>
    obtain ⟨t, s⟩ := head
    rw [settle_cons, find?_cons, find?_cons, ih]
    by_cases ht : ticket = t
    · subst ht
      simp
    · rw [if_neg ht, if_neg ht]

theorem find?_erase_self : (slots.erase ticket).find? ticket = none := by
  induction slots with
  | nil => rfl
  | cons head rest ih =>
    obtain ⟨t, s⟩ := head
    by_cases ht : t = ticket
    · simp only [erase, List.filter_cons, ht, bne_self_eq_false, Bool.false_eq_true, if_false]
      exact ih
    · simp only [erase, List.filter_cons, bne_iff_ne.mpr ht, if_true]
      rw [find?_cons, if_neg (Ne.symm ht)]
      exact ih

theorem find?_erase_of_ne (h : other ≠ ticket) :
    (slots.erase ticket).find? other = slots.find? other := by
  induction slots with
  | nil => rfl
  | cons head rest ih =>
    obtain ⟨t, s⟩ := head
    by_cases ht : t = ticket
    · simp only [erase, List.filter_cons, ht, bne_self_eq_false, Bool.false_eq_true, if_false]
      rw [find?_cons, if_neg h]
      exact ih
    · simp only [erase, List.filter_cons, bne_iff_ne.mpr ht, if_true]
      rw [find?_cons, find?_cons]
      exact congrArg _ ih

/-- A slot put at the end is found under its ticket unless there was one before. -/
theorem find?_append_single :
    find? (slots ++ [(ticket, slot)]) other =
      (slots.find? other).or (if other = ticket then some slot else none) := by
  induction slots with
  | nil => simp [find?_cons]
  | cons head rest ih =>
    obtain ⟨t, s⟩ := head
    rw [List.cons_append, find?_cons, find?_cons, ih]
    by_cases ht : other = t
    · rw [if_pos ht, if_pos ht, Option.some_or]
    · rw [if_neg ht, if_neg ht]

theorem fst_ne_of_find?_none (h : slots.find? ticket = none) : ∀ x ∈ slots, x.1 ≠ ticket := by
  intro x hx same
  have test := List.lookup_eq_none_iff.mp h x hx
  simp [same] at test

theorem erase_of_find?_none (h : slots.find? ticket = none) : slots.erase ticket = slots :=
  List.filter_eq_self.mpr fun x hx => bne_iff_ne.mpr (fst_ne_of_find?_none h x hx)

theorem settle_of_find?_none (h : slots.find? ticket = none) : slots.settle ticket slot = slots := by
  refine (List.map_congr_left fun x hx => ?_).trans (List.map_id slots)
  obtain ⟨t, s⟩ := x
  simp [beq_false_of_ne (fst_ne_of_find?_none h _ hx)]

end Slots

end DuplexRpc

import DuplexRpc.Proofs.Json.Stable.Number
import DuplexRpc.Proofs.Json.Stable.Text
import DuplexRpc.Proofs.Json.Value

/-! Lists and objects end with their brackets, whatever follows them. So a text that is cut off inside
of an object is no value. -/

namespace DuplexRpc.Json

open Value

variable {α : Type} {bytes rest : List UInt8}

/-! ### Lists and objects -/

/-- The next item, or the bracket, stays, so something is left. -/
theorem nextItem_more {first : Bool} {follow : Follow}
    (found : nextItem first bytes = .ok (follow, rest)) (more : List UInt8) :
    rest ≠ [] ∧ nextItem first (bytes ++ more) = .ok (follow, rest ++ more) := by
  rw [nextItem] at found ⊢
  split at found
  · cases found
  · rename_i b left start
    rw [skipSpace_more start, List.cons_append]
    simp only
    by_cases bracket : b = ascii ']'
    · rw [if_pos bracket] at found ⊢
      obtain ⟨rfl, rfl⟩ := Prod.mk.inj (Except.ok.inj found)
      exact ⟨List.cons_ne_nil b left, rfl⟩
    rw [if_neg bracket] at found ⊢
    by_cases beginning : first = true
    · rw [if_pos beginning] at found ⊢
      obtain ⟨rfl, rfl⟩ := Prod.mk.inj (Except.ok.inj found)
      exact ⟨List.cons_ne_nil b left, rfl⟩
    rw [if_neg beginning] at found ⊢
    by_cases comma : b = ascii ','
    · rw [if_pos comma] at found ⊢
      split at found
      · cases found
      · rename_i c left' start'
        rw [skipSpace_more start', List.cons_append]
        simp only
        by_cases closing : c = ascii ']'
        · rw [if_pos closing] at found
          cases found
        · rw [if_neg closing] at found ⊢
          obtain ⟨rfl, rfl⟩ := Prod.mk.inj (Except.ok.inj found)
          exact ⟨List.cons_ne_nil c left', rfl⟩
    · rw [if_neg comma] at found
      cases found

/-- The next name, or the brace, stays, so something is left. -/
theorem nextName_more {first : Bool} {follow : Follow}
    (found : nextName first bytes = .ok (follow, rest)) (more : List UInt8) :
    rest ≠ [] ∧ nextName first (bytes ++ more) = .ok (follow, rest ++ more) := by
  rw [nextName] at found ⊢
  split at found
  · cases found
  · rename_i b left start
    rw [skipSpace_more start, List.cons_append]
    simp only
    by_cases brace : b = ascii '\x7d'
    · rw [if_pos brace] at found ⊢
      obtain ⟨rfl, rfl⟩ := Prod.mk.inj (Except.ok.inj found)
      exact ⟨List.cons_ne_nil b left, rfl⟩
    rw [if_neg brace] at found ⊢
    by_cases beginning : first = true
    · rw [if_pos beginning] at found ⊢
      by_cases quote : b = ascii '"'
      · rw [if_pos quote] at found ⊢
        obtain ⟨rfl, rfl⟩ := Prod.mk.inj (Except.ok.inj found)
        exact ⟨List.cons_ne_nil b left, rfl⟩
      · rw [if_neg quote] at found
        cases found
    rw [if_neg beginning] at found ⊢
    by_cases comma : b = ascii ','
    · rw [if_pos comma] at found ⊢
      split at found
      · cases found
      · rename_i c left' start'
        rw [skipSpace_more start', List.cons_append]
        simp only
        by_cases quote : c = ascii '"'
        · rw [if_pos quote] at found ⊢
          obtain ⟨rfl, rfl⟩ := Prod.mk.inj (Except.ok.inj found)
          exact ⟨List.cons_ne_nil c left', rfl⟩
        · rw [if_neg quote] at found
          split at found <;> cases found
    · rw [if_neg comma] at found
      cases found

theorem stable_readColon : Stable readColon := by
  intro bytes u rest found more
  rw [readColon] at found ⊢
  split at found
  · cases found
  · rename_i b left start
    rw [skipSpace_more start, List.cons_append]
    simp only
    by_cases colon : b = ascii ':'
    · rw [if_pos colon] at found ⊢
      obtain ⟨rfl, rfl⟩ := Prod.mk.inj (Except.ok.inj found)
      rfl
    · rw [if_neg colon] at found
      cases found

variable {item : Reader α} {fuel fuel' : Nat} {first : Bool}

/-- What was found by looking for the next item was found in some bytes. -/
theorem ne_nil_of_readItems {xs : List α} (found : readItems item fuel first bytes = .ok (xs, rest)) :
    bytes ≠ [] := by
  rintro rfl
  cases fuel <;> cases found

theorem ne_nil_of_readEntries {xs : List (String × α)}
    (found : readEntries item fuel first bytes = .ok (xs, rest)) : bytes ≠ [] := by
  rintro rfl
  cases fuel <;> cases found

/-- The items of a list end with a bracket, so something is left after each of them. -/
theorem readItems_more {xs : List α} (inside : StableInside item)
    (found : readItems item fuel first bytes = .ok (xs, rest)) (enough : fuel ≤ fuel')
    (more : List UInt8) :
    readItems item fuel' first (bytes ++ more) = .ok (xs, rest ++ more) := by
  induction fuel generalizing fuel' first bytes xs with
  | zero => cases found
  | succ fuel ih =>
    obtain ⟨fuel', rfl⟩ : ∃ n, fuel' = n + 1 := ⟨fuel' - 1, by omega⟩
    rw [readItems] at found ⊢
    split at found
    · cases found
    · rename_i left next
      obtain ⟨some, next⟩ := nextItem_more next more
      obtain ⟨rfl, rfl⟩ := Prod.mk.inj (Except.ok.inj found)
      rw [next, ← List.drop_append_of_le_length (List.length_pos_iff.mpr some)]
    · rename_i left next
      obtain ⟨-, next⟩ := nextItem_more next more
      rw [next]
      simp only
      split at found
      · cases found
      · rename_i x after one
        split at found
        · cases found
        · rename_i ys last others
          obtain ⟨rfl, rfl⟩ := Prod.mk.inj (Except.ok.inj found)
          obtain ⟨b, tail, rfl⟩ := List.exists_cons_of_ne_nil (ne_nil_of_readItems others)
          rw [inside one more]
          simp only [ih others (Nat.le_of_succ_le_succ enough)]

/-- Only what is read for an entry can go to the end of the bytes. -/
theorem inside_readEntry (inside : StableInside item) : StableInside (readEntry item) := by
  intro bytes entry b rest found more
  rw [readEntry] at found ⊢
  split at found
  · cases found
  · rename_i name left named
    have some : bytes ≠ [] := by
      rintro rfl
      rw [List.drop_nil, readString, readStringBytes] at named
      cases named
    have named := stable_readString named more
    rw [← List.drop_append_of_le_length (List.length_pos_iff.mpr some)] at named
    rw [named]
    simp only
    split at found
    · cases found
    · rename_i u after colon
      rw [stable_readColon colon]
      simp only
      split at found
      · cases found
      · rename_i x last one
        obtain ⟨rfl, rfl⟩ := Prod.mk.inj (Except.ok.inj found)
        rw [inside one]

/-- The entries of an object end with a brace, so something is left after each of them. -/
theorem readEntries_more {xs : List (String × α)} (inside : StableInside item)
    (found : readEntries item fuel first bytes = .ok (xs, rest)) (enough : fuel ≤ fuel')
    (more : List UInt8) :
    readEntries item fuel' first (bytes ++ more) = .ok (xs, rest ++ more) := by
  induction fuel generalizing fuel' first bytes xs with
  | zero => cases found
  | succ fuel ih =>
    obtain ⟨fuel', rfl⟩ : ∃ n, fuel' = n + 1 := ⟨fuel' - 1, by omega⟩
    rw [readEntries] at found ⊢
    split at found
    · cases found
    · rename_i left next
      obtain ⟨some, next⟩ := nextName_more next more
      obtain ⟨rfl, rfl⟩ := Prod.mk.inj (Except.ok.inj found)
      rw [next, ← List.drop_append_of_le_length (List.length_pos_iff.mpr some)]
    · rename_i left next
      obtain ⟨-, next⟩ := nextName_more next more
      rw [next]
      simp only
      split at found
      · cases found
      · rename_i x after one
        split at found
        · cases found
        · rename_i ys last others
          obtain ⟨rfl, rfl⟩ := Prod.mk.inj (Except.ok.inj found)
          obtain ⟨b, tail, rfl⟩ := List.exists_cons_of_ne_nil (ne_nil_of_readEntries others)
          rw [inside_readEntry inside one more]
          simp only [ih others (Nat.le_of_succ_le_succ enough)]

/-! ### Values -/

/-- A value is a number that ends with the bytes, or it ends by itself. -/
def Settled (v : Value) (rest : List UInt8) : Prop :=
  rest = [] → ∀ n, v ≠ .num n

theorem mapReader_num_more {read : Reader Number} {v : Value} (inside : StableInside read)
    (found : mapReader Value.num read bytes = .ok (v, rest)) (settled : Settled v rest)
    (more : List UInt8) : mapReader Value.num read (bytes ++ more) = .ok (v, rest ++ more) := by
  match rest with
  | [] =>
    rw [Json.mapReader] at found
    split at found
    · cases found
    · obtain ⟨rfl, -⟩ := Prod.mk.inj (Except.ok.inj found)
      exact absurd rfl (settled rfl _)
  | b :: rest => exact inside.mapReader Value.num found more

/-- What is read stays as it is, whatever follows the bytes, unless it is a number and ends with
them. -/
theorem readValue_more_of_inner {depth : Nat} {v : Value}
    (inner : ∀ d, depth = d + 1 → StableInside (readValue d))
    (found : readValue depth bytes = .ok (v, rest)) (settled : Settled v rest) (more : List UInt8) :
    readValue depth (bytes ++ more) = .ok (v, rest ++ more) := by
  rw [readValue] at found ⊢
  split at found
  · cases found
  · rename_i b left start
    have enough : left.length + 1 ≤ (left ++ more).length + 1 := by simp
    rw [skipSpace_more start, List.cons_append]
    simp only
    by_cases null : b = ascii 'n'
    · rw [if_pos null] at found ⊢
      exact stable_readNamed _ _ found more
    rw [if_neg null] at found ⊢
    by_cases yes : b = ascii 't'
    · rw [if_pos yes] at found ⊢
      exact stable_readNamed _ _ found more
    rw [if_neg yes] at found ⊢
    by_cases no : b = ascii 'f'
    · rw [if_pos no] at found ⊢
      exact stable_readNamed _ _ found more
    rw [if_neg no] at found ⊢
    by_cases minus : b = ascii '-'
    · rw [if_pos minus] at found ⊢
      exact mapReader_num_more inside_readNumber found settled more
    rw [if_neg minus] at found ⊢
    by_cases digit : isDigit b = true
    · rw [if_pos digit] at found ⊢
      exact mapReader_num_more inside_readNumber found settled more
    rw [if_neg digit] at found ⊢
    by_cases quote : b = ascii '"'
    · rw [if_pos quote] at found ⊢
      exact stable_readString.mapReader Value.str found more
    rw [if_neg quote] at found ⊢
    by_cases bracket : b = ascii '['
    · rw [if_pos bracket] at found ⊢
      cases depth with
      | zero => cases found
      | succ depth =>
        simp only at found ⊢
        rw [Json.mapReader] at found ⊢
        split at found
        · cases found
        · rename_i xs after items
          obtain ⟨rfl, rfl⟩ := Prod.mk.inj (Except.ok.inj found)
          rw [readItems_more (inner depth rfl) items enough]
    rw [if_neg bracket] at found ⊢
    by_cases brace : b = ascii '\x7b'
    · rw [if_pos brace] at found ⊢
      cases depth with
      | zero => cases found
      | succ depth =>
        simp only at found ⊢
        rw [Json.mapReader] at found ⊢
        split at found
        · cases found
        · rename_i xs after entries
          obtain ⟨rfl, rfl⟩ := Prod.mk.inj (Except.ok.inj found)
          rw [readEntries_more (inner depth rfl) entries enough]
    · rw [if_neg brace] at found
      cases found

theorem readValue_more {depth : Nat} {v : Value} (found : readValue depth bytes = .ok (v, rest))
    (settled : Settled v rest) (more : List UInt8) :
    readValue depth (bytes ++ more) = .ok (v, rest ++ more) := by
  induction depth generalizing bytes v rest more with
  | zero =>
    exact readValue_more_of_inner (fun d same => absurd same.symm (Nat.succ_ne_zero d)) found settled
      more
  | succ depth ih =>
    refine readValue_more_of_inner ?_ found settled more
    intro d same bytes v b rest one more
    obtain rfl := Nat.succ.inj same
    exact ih one nofun more

/-! ### Objects that are cut off -/

theorem obj_of_readValue_brace {depth : Nat} {v : Value}
    (found : readValue depth (ascii '\x7b' :: bytes) = .ok (v, rest)) : ∃ fs, v = .obj fs := by
  match depth with
  | 0 =>
    rw [readValue] at found
    cases found
  | depth + 1 =>
    rw [readValue_brace, Json.mapReader] at found
    split at found
    · cases found
    · obtain ⟨rfl, -⟩ := Prod.mk.inj (Except.ok.inj found)
      exact ⟨_, rfl⟩

theorem Settled.obj (fs : List (String × Value)) (rest : List UInt8) : Settled (.obj fs) rest :=
  fun _ _ => nofun

theorem write_obj_eq_cons (fs : List (String × Value)) :
    ∃ tail, write (.obj fs) = ascii '\x7b' :: tail := by
  rcases fs with _ | ⟨_, _⟩ <;> exact ⟨_, rfl⟩

/-- All of a written value is taken where it is read. -/
theorem eq_nil_of_readValue_write {v w : Value} {depth : Nat}
    (found : readValue depth (write v) = .ok (w, rest)) : rest = [] := by
  have echoes : Echoes (depth < v.depth) v.Resembles sorted [] (readValue depth (write v ++ [])) :=
    echoes_value v nofun
  rw [List.append_nil, found] at echoes
  exact echoes.1

theorem exists_readValue_write {v : Value} {depth : Nat} (deep : v.depth ≤ depth) :
    ∃ w, readValue depth (write v) = .ok (w, []) := by
  have echoes : Echoes (depth < v.depth) v.Resembles sorted [] (readValue depth (write v ++ [])) :=
    echoes_value v nofun
  rw [List.append_nil] at echoes
  cases found : readValue depth (write v) with
  | error e =>
    rw [found] at echoes
    exact absurd echoes (Nat.not_lt.mpr deep)
  | ok r =>
    obtain ⟨w, rest⟩ := r
    rw [eq_nil_of_readValue_write found]
    exact ⟨w, rfl⟩

/-- A text that a written object goes beyond is not read as a value. -/
theorem parse_cut {fs : List (String × Value)} {front back : List UInt8}
    (cut : write (.obj fs) = front ++ back) (some : back ≠ []) : ∃ e, parse front = .error e := by
  rw [parse]
  cases found : readValue maxDepth front with
  | error e => exact ⟨e, rfl⟩
  | ok r =>
    obtain ⟨w, rest⟩ := r
    obtain ⟨tail, brace⟩ := write_obj_eq_cons fs
    cases front with
    | nil =>
      rw [readValue] at found
      cases found
    | cons b front =>
      have first : b = ascii '\x7b' := (List.cons.inj (cut.symm.trans brace)).1
      subst first
      obtain ⟨fields, rfl⟩ := obj_of_readValue_brace found
      -- What was read is all of the written object, and so nothing is cut off.
      have whole := readValue_more found (.obj fields rest) back
      rw [← cut] at whole
      exact absurd (List.append_eq_nil_iff.mp (eq_nil_of_readValue_write whole)).2 some

/-- Nothing follows a written object within another value. -/
theorem write_append_ne {fs : List (String × Value)} {w : Value} {back : List UInt8}
    (more : write w = write (.obj fs) ++ back) : back = [] := by
  obtain ⟨v, one⟩ := exists_readValue_write (Nat.le_refl (Value.obj fs).depth)
  obtain ⟨tail, brace⟩ := write_obj_eq_cons fs
  have object := one
  rw [brace] at object
  obtain ⟨fields, rfl⟩ := obj_of_readValue_brace object
  have whole := readValue_more one (.obj fields []) back
  rw [← more, List.nil_append] at whole
  exact eq_nil_of_readValue_write whole

end DuplexRpc.Json

import DuplexRpc.Decode.Record
import DuplexRpc.Proofs.Fields

/-! Records of objects whose entries are in order. Entries are decoded as they stand, so the fields are
decoded in rising order of their names; each could as well be looked up by its name. -/

namespace DuplexRpc

namespace Fields

variable {β : Type} {name name' : String} {x : β} {fields : List (String × β)}

theorem mem_of_get? (h : get? name fields = some x) : (name, x) ∈ fields := by
  induction fields with
  | nil => cases h
  | cons entry rest ih =>
    obtain ⟨other, y⟩ := entry
    rw [get?] at h
    split at h
    · rename_i same
      subst same
      cases h
      exact List.mem_cons_self
    · exact List.mem_cons_of_mem _ (ih h)

theorem get?_cons_of_ne (h : name ≠ name') : get? name ((name', x) :: fields) = get? name fields :=
  if_neg h

theorem get?_of_less (h : ∀ e ∈ fields, name < e.1) : get? name fields = none := by
  induction fields with
  | nil => rfl
  | cons entry rest ih =>
    have less := h entry List.mem_cons_self
    rw [get?_cons_of_ne (String.ne_of_lt less)]
    exact ih fun e he => h e (List.mem_cons_of_mem _ he)

theorem contains_map_fst {fields : List (String × β)} :
    (fields.map (·.1)).contains name = (get? name fields).isSome := by
  induction fields with
  | nil => rfl
  | cons entry rest ih =>
    obtain ⟨other, y⟩ := entry
    rw [List.map_cons, List.contains_cons, get?, ih]
    by_cases same : name = other
    · simp [same]
    · simp [same]

/-- What stands under a name, where null counts as absent. -/
def given? (name : String) (fields : List (String × Value)) : Option Value :=
  (get? name fields).filter fun v => !v.isNull

theorem get?_of_given? {fields : List (String × Value)} {v : Value} (h : given? name fields = some v) :
    get? name fields = some v ∧ v.isNull = false := by
  obtain ⟨found, there⟩ := Option.filter_eq_some_iff.mp h
  exact ⟨found, by simpa using there⟩

end Fields

namespace Decoder

variable {σ : Type} {fields known : List (Field σ)} {entries entries' : List (String × Value)}

/-- Fills the fields that are given, each looked up by its name. -/
def fillGiven (entries : List (String × Value)) : List (Field σ) → σ → Except Mismatch σ
  | [], s => .ok s
  | f :: fs, s =>
    match Fields.get? f.name entries with
    | none => fillGiven entries fs s
    | some v =>
      match f.decoder.ofValue v with
      | .error m => .error m
      | .ok g => fillGiven entries fs (g s)

theorem fillGiven_congr
    (h : ∀ f ∈ known, Fields.get? f.name entries = Fields.get? f.name entries') (s : σ) :
    fillGiven entries known s = fillGiven entries' known s := by
  induction known generalizing s with
  | nil => rfl
  | cons f fs ih =>
    have others := fun s => ih (fun g hg => h g (List.mem_cons_of_mem f hg)) s
    simp only [fillGiven, h f List.mem_cons_self, others]

theorem fillGiven_nil (s : σ) : fillGiven [] known s = .ok s := by
  induction known with
  | nil => rfl
  | cons f fs ih => rw [fillGiven, Fields.get?]; exact ih

/-! ### Fields by their names -/

theorem fieldOf?_cons (f : Field σ) (name : String) :
    fieldOf? (f :: fields) name = if f.name = name then some f else fieldOf? fields name := by
  by_cases same : f.name = name
  · simp [fieldOf?, same]
  · rw [if_neg same, fieldOf?, List.find?_cons_of_neg (by simpa using same), fieldOf?]

theorem fieldOf?_of_less {name : String} (h : ∀ f ∈ known, name < f.name) :
    fieldOf? known name = none := by
  rw [fieldOf?, List.find?_eq_none]
  intro f hf
  simpa using (String.ne_of_lt (h f hf)).symm

/-- The order of fields with different names does not matter for looking one up. -/
theorem fieldOf?_of_perm (perm : fields.Perm known) (distinct : (fields.map (·.name)).Nodup)
    (name : String) : fieldOf? fields name = fieldOf? known name := by
  induction perm with
  | nil => rfl
  | cons f _ ih =>
    rw [List.map_cons, List.nodup_cons] at distinct
    rw [fieldOf?_cons, fieldOf?_cons, ih distinct.2]
  | swap f g rest =>
    rw [List.map_cons, List.map_cons, List.nodup_cons] at distinct
    have apart : g.name ≠ f.name := fun same => distinct.1 (same ▸ List.mem_cons_self)
    simp only [fieldOf?_cons]
    by_cases first : g.name = name
    · subst first
      rw [if_pos rfl, if_neg apart.symm, if_pos rfl]
    · rw [if_neg first, if_neg first]
  | trans perm _ ih ih' => rw [ih distinct, ih' ((perm.map _).nodup_iff.mp distinct)]

/-- Where the first field is not given, the others are filled alone. -/
theorem fillGiven_skip {f : Field σ} (h : Fields.get? f.name entries = none) (s : σ) :
    fillGiven entries (f :: known) s = fillGiven entries known s := by
  rw [fillGiven, h]

/-- An entry under a name that no field has is passed over. -/
theorem fillGiven_cons_of_ne {name : String} {v : Value} (h : ∀ f ∈ known, f.name ≠ name) (s : σ) :
    fillGiven ((name, v) :: entries) known s = fillGiven entries known s :=
  fillGiven_congr (fun f hf => Fields.get?_cons_of_ne (h f hf)) s

/-- Entries in order are decoded as the given fields are, which stand in rising order of their
names. -/
theorem recordOfEntries_eq_fillGiven (sorted : Fields.Sorted entries)
    (rising : known.Pairwise fun f g => f.name < g.name)
    (same : ∀ e ∈ entries, fieldOf? fields e.1 = fieldOf? known e.1) (s : σ) :
    recordOfEntries fields entries s = fillGiven entries known s := by
  induction entries generalizing known s with
  | nil => rw [recordOfEntries, fillGiven_nil]
  | cons entry rest ih =>
    obtain ⟨name, v⟩ := entry
    obtain ⟨least, tail⟩ := List.pairwise_cons.mp sorted
    have sameRest := fun e he => same e (List.mem_cons_of_mem _ he)
    have sameHere : fieldOf? fields name = fieldOf? known name := same _ List.mem_cons_self
    -- the inner induction drops the fields whose names stand before the entry's
    induction known with
    | nil =>
      rw [recordOfEntries, sameHere]
      exact ih tail rising sameRest s
    | cons f fs skip =>
      obtain ⟨first, rising'⟩ := List.pairwise_cons.mp rising
      by_cases before : f.name < name
      · have less : ∀ e ∈ (name, v) :: rest, f.name < e.1 :=
          List.forall_mem_cons.mpr ⟨before, fun e he => String.lt_trans before (least e he)⟩
        have same' : ∀ e ∈ (name, v) :: rest, fieldOf? fields e.1 = fieldOf? fs e.1 := by
          intro e he
          rw [same e he, fieldOf?_cons, if_neg (String.ne_of_lt (less e he))]
        rw [fillGiven_skip (Fields.get?_of_less less)]
        exact skip rising' same' (fun e he => same' e (List.mem_cons_of_mem _ he))
          (same' _ List.mem_cons_self)
      by_cases here : f.name = name
      · subst here
        have apart : ∀ g ∈ fs, g.name ≠ f.name := fun g hg => (String.ne_of_lt (first g hg)).symm
        have same' : ∀ e ∈ rest, fieldOf? fields e.1 = fieldOf? fs e.1 := by
          intro e he
          rw [sameRest e he, fieldOf?_cons, if_neg (String.ne_of_lt (least e he))]
        rw [recordOfEntries, sameHere, fieldOf?_cons, if_pos rfl, fillGiven, Fields.get?, if_pos rfl]
        cases read : f.decoder.ofValue v with
        | error m => simp only [read]
        | ok g => simp only [read, fillGiven_cons_of_ne apart, ih tail rising' same']
      · have after : name < f.name := by
          refine String.not_le.mp fun le => here ?_
          exact String.le_antisymm le (String.not_lt.mp before)
        have less : ∀ g ∈ f :: fs, name < g.name :=
          List.forall_mem_cons.mpr ⟨after, fun g hg => String.lt_trans after (first g hg)⟩
        rw [recordOfEntries, sameHere, fieldOf?_of_less less,
          fillGiven_cons_of_ne fun g hg => (String.ne_of_lt (less g hg)).symm]
        exact ih tail rising sameRest s

/-- A record of an object: its fields are looked up in rising order of their names, and then those
that are absent are filled. -/
theorem record_obj (type : String) (start : σ) (sorted : Fields.Sorted entries)
    (perm : fields.Perm known) (rising : known.Pairwise fun f g => f.name < g.name) :
    (record type fields start).ofValue (.obj entries) =
      (fillGiven entries known start).bind (fillAbsent (entries.map (·.1)) fields) := by
  have distinct : (fields.map (·.name)).Nodup := by
    rw [(perm.map _).nodup_iff, List.nodup_iff_pairwise_ne, List.pairwise_map]
    exact rising.imp String.ne_of_lt
  have filled := recordOfEntries_eq_fillGiven sorted rising
    (fun e _ => fieldOf?_of_perm perm distinct e.1) start
  simp only [record, filled]
  rfl

/-! ### Kinds of fields -/

section

variable {α : Type} {d : Decoder α} {name : String} {s : σ} {v : Value}

/-- What is read under a name, where null counts as absent. -/
def readGiven (d : Decoder α) (name : String) (entries : List (String × Value)) :
    Except Mismatch (Option α) :=
  match Fields.given? name entries with
  | none => .ok none
  | some v => (d.ofValue v).map some

theorem optional_of_not_null (h : v.isNull = false) :
    d.optional.ofValue v = (d.ofValue v).map some := by
  cases v with
  | null => cases h
  | _ => rfl

theorem readGiven_eq_none_iff :
    readGiven d name entries = .ok none ↔ Fields.given? name entries = none := by
  unfold readGiven
  cases Fields.given? name entries with
  | none => simp
  | some v => cases read : d.ofValue v <;> simp [read, Except.map]

theorem readGiven_eq_some_iff {x : α} :
    readGiven d name entries = .ok (some x) ↔
      ∃ v, Fields.given? name entries = some v ∧ d.ofValue v = .ok x := by
  unfold readGiven
  cases Fields.given? name entries with
  | none => simp
  | some v => cases read : d.ofValue v <;> simp [read, Except.map]

/-- A field for which null counts as absent is read so, where absence leaves the record as it is. -/
theorem fillGiven_optional {set : Option α → σ → σ} (blank : set none s = s) :
    fillGiven entries (.optional name d.optional set :: known) s =
      (readGiven d name entries).bind fun x => fillGiven entries known (set x s) := by
  unfold readGiven Fields.given?
  cases found : Fields.get? name entries with
  | none =>
    rw [fillGiven_skip found, ← blank]
    simp only [Option.filter_none, Except.bind, blank]
  | some v =>
    rw [fillGiven]
    simp only [Field.optional, found, Decoder.map]
    cases there : v.isNull with
    | true =>
      cases v with
      | null => rfl
      | _ => cases there
    | false =>
      rw [optional_of_not_null there, Option.filter_some_pos (by simp [there])]
      cases read : d.ofValue v <;> simp only [read, Except.map, Except.bind]

theorem fillGiven_value {set : Value → σ → σ} :
    fillGiven entries (.optional name .value set :: known) s =
      fillGiven entries known ((Fields.get? name entries).elim s fun v => set v s) := by
  rw [fillGiven]
  cases found : Fields.get? name entries with
  | none => simp only [Field.optional, found, Option.elim]
  | some v => simp only [Field.optional, found, Option.elim, Decoder.map, value, Except.map]

theorem fillGiven_required {set : α → σ → σ} (found : Fields.get? name entries = some v) :
    fillGiven entries (.required name d set :: known) s =
      (d.ofValue v).bind fun x => fillGiven entries known (set x s) := by
  rw [fillGiven]
  simp only [Field.required, found, Decoder.map]
  cases d.ofValue v <;> rfl

/-- Where each field is given or may be absent, nothing more is filled in. -/
theorem fillAbsent_eq_self {given : List String}
    (h : ∀ f ∈ fields, given.contains f.name = true ∨ f.absent = some id) (s : σ) :
    fillAbsent given fields s = .ok s := by
  induction fields with
  | nil => rfl
  | cons f fs ih =>
    have others := ih fun g hg => h g (List.mem_cons_of_mem f hg)
    rw [fillAbsent]
    split
    · exact others
    · rename_i missing
      rw [(h f List.mem_cons_self).resolve_left missing]
      exact others

end

end Decoder

end DuplexRpc

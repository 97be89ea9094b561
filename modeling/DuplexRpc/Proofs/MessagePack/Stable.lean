import DuplexRpc.Proofs.MessagePack.Value

/-! What was read from the front of some bytes is read again when more bytes follow, and when there is
room for more levels. -/

namespace DuplexRpc.MessagePack

open Bytes Text

/-- What one reader reads the other one reads too, whatever follows the bytes. -/
def Covers {α : Type} (read read' : Reader α) : Prop :=
  ∀ ⦃bytes x rest⦄, read bytes = .ok (x, rest) →
    ∀ more, read' (bytes ++ more) = .ok (x, rest ++ more)

variable {α : Type} {n width depth depth' : Nat} {bytes rest : List UInt8}

theorem splitExact_more {front : List UInt8} (h : splitExact n bytes = some (front, rest))
    (more : List UInt8) : splitExact n (bytes ++ more) = some (front, rest ++ more) := by
  induction n generalizing bytes front with
  | zero =>
    obtain ⟨rfl, rfl⟩ := Prod.mk.inj (Option.some.inj h)
    rfl
  | succ n ih =>
    match bytes with
    | [] => cases h
    | b :: bytes =>
      rw [splitExact] at h
      rw [List.cons_append, splitExact]
      split at h
      · rename_i front' rest' split
        obtain ⟨rfl, rfl⟩ := Prod.mk.inj (Option.some.inj h)
        rw [ih split]
      · cases h

/-! ### Heads -/

theorem covers_readNat (width : Nat) : Covers (readNat width) (readNat width) := by
  intro bytes n rest found more
  rw [readNat] at found ⊢
  split at found
  · rename_i front left split
    obtain ⟨rfl, rfl⟩ := Prod.mk.inj (Except.ok.inj found)
    rw [splitExact_more split]
  · cases found

theorem covers_readNatAs (width : Nat) (f : Nat → Head) :
    Covers (readNatAs width f) (readNatAs width f) := by
  intro bytes head rest found more
  rw [readNatAs] at found ⊢
  split at found
  · cases found
  · rename_i n left read
    obtain ⟨rfl, rfl⟩ := Prod.mk.inj (Except.ok.inj found)
    rw [covers_readNat width read]

theorem covers_readContent (length : Nat) : Covers (readContent length) (readContent length) := by
  intro bytes content rest found more
  rw [readContent] at found ⊢
  split at found
  · rename_i front left split
    obtain ⟨rfl, rfl⟩ := Prod.mk.inj (Except.ok.inj found)
    rw [splitExact_more split]
  · cases found

theorem covers_readText (length : Nat) : Covers (readText length) (readText length) := by
  intro bytes head rest found more
  rw [readText] at found ⊢
  split at found
  · cases found
  · rename_i content left read
    rw [covers_readContent length read]
    simp only
    split at found
    · obtain ⟨rfl, rfl⟩ := Prod.mk.inj (Except.ok.inj found)
      rfl
    · cases found

theorem covers_readBytes (length : Nat) : Covers (readBytes length) (readBytes length) := by
  intro bytes head rest found more
  rw [readBytes] at found ⊢
  split at found
  · cases found
  · rename_i content left read
    obtain ⟨rfl, rfl⟩ := Prod.mk.inj (Except.ok.inj found)
    rw [covers_readContent length read]

theorem covers_readLength {next : Nat → Reader Head} (h : ∀ n, Covers (next n) (next n))
    (width : Nat) : Covers (readLength width next) (readLength width next) := by
  intro bytes head rest found more
  rw [readLength] at found ⊢
  split at found
  · cases found
  · rename_i n left read
    rw [covers_readNat width read]
    exact h n found more

theorem covers_done (head : Head) :
    Covers (fun bytes => .ok (head, bytes)) fun bytes => .ok (head, bytes) := by
  intro bytes x rest found more
  obtain ⟨rfl, rfl⟩ := Prod.mk.inj (Except.ok.inj found)
  rfl

theorem covers_readMarked (marker : UInt8) : Covers (readMarked marker) (readMarked marker) := by
  intro bytes head rest found more
  unfold readMarked at found ⊢
  split at found
  -- Markers without content, markers with a number behind them and markers with a length behind them.
  any_goals exact covers_done _ found more
  any_goals exact covers_readNatAs _ _ found more
  any_goals exact covers_readLength covers_readBytes _ found more
  any_goals exact covers_readLength covers_readText _ found more
  split at found
  · cases found
  · rename_i reserved
    rw [if_neg reserved]
    exact covers_done _ found more

theorem covers_readHead : Covers readHead readHead := by
  intro bytes head rest found more
  match bytes with
  | [] => cases found
  | marker :: bytes =>
    rw [readHead] at found
    rw [List.cons_append, readHead]
    by_cases number : marker.toNat < 0x80
    · rw [if_pos number] at found ⊢
      exact covers_done _ found more
    rw [if_neg number] at found ⊢
    by_cases map : marker.toNat < 0x90
    · rw [if_pos map] at found ⊢
      exact covers_done _ found more
    rw [if_neg map] at found ⊢
    by_cases array : marker.toNat < 0xA0
    · rw [if_pos array] at found ⊢
      exact covers_done _ found more
    rw [if_neg array] at found ⊢
    by_cases text : marker.toNat < 0xC0
    · rw [if_pos text] at found ⊢
      exact covers_readText _ found more
    rw [if_neg text] at found ⊢
    by_cases marked : marker.toNat < 0xE0
    · rw [if_pos marked] at found ⊢
      exact covers_readMarked marker found more
    · rw [if_neg marked] at found ⊢
      exact covers_done _ found more

/-! ### Values -/

/-- The room for levels matters to the faults of a name alone. -/
theorem covers_readName (depth depth' : Nat) (first : Bool) :
    Covers (readName depth first) (readName depth' first) := by
  intro bytes name rest found more
  rw [readName] at found ⊢
  simp only at found ⊢
  split at found
  · cases found
  · rename_i head left read
    rw [covers_readHead read]
    cases head with
    | text s =>
      obtain ⟨rfl, rfl⟩ := Prod.mk.inj (Except.ok.inj found)
      rfl
    | bytes content =>
      simp only at found ⊢
      by_cases beginning : first = true
      · rw [if_pos beginning] at found
        cases found
      · rw [if_neg beginning] at found ⊢
        split at found
        · obtain ⟨rfl, rfl⟩ := Prod.mk.inj (Except.ok.inj found)
          rfl
        · cases found
    | null | bool _ | int _ | float _ => cases found
    | array _ | map _ | extension =>
      simp only [misplacedInside] at found
      split at found <;> cases found

variable {item item' : Reader α}

theorem Covers.readItems (h : Covers item item') (n : Nat) :
    Covers (readItems item n) (readItems item' n) := by
  intro bytes xs rest found more
  induction n generalizing bytes xs with
  | zero =>
    obtain ⟨rfl, rfl⟩ := Prod.mk.inj (Except.ok.inj found)
    rfl
  | succ n ih =>
    rw [MessagePack.readItems] at found ⊢
    split at found
    · cases found
    · rename_i x left one
      rw [h one]
      simp only
      split at found
      · cases found
      · rename_i xs left others
        obtain ⟨rfl, rfl⟩ := Prod.mk.inj (Except.ok.inj found)
        rw [ih others]

theorem Covers.readEntries (h : Covers item item') (depth depth' n : Nat) (first : Bool) :
    Covers (readEntries depth item n first) (readEntries depth' item' n first) := by
  intro bytes xs rest found more
  induction n generalizing bytes xs first with
  | zero =>
    obtain ⟨rfl, rfl⟩ := Prod.mk.inj (Except.ok.inj found)
    rfl
  | succ n ih =>
    rw [MessagePack.readEntries] at found ⊢
    split at found
    · cases found
    · rename_i name left named
      rw [covers_readName depth depth' first named]
      simp only
      split at found
      · cases found
      · rename_i x left one
        rw [h one]
        simp only
        split at found
        · cases found
        · rename_i xs left others
          obtain ⟨rfl, rfl⟩ := Prod.mk.inj (Except.ok.inj found)
          rw [ih false others]

theorem covers_readValue_of_inner (room : depth ≤ depth')
    (inner : ∀ d d', depth = d + 1 → depth' = d' + 1 → Covers (readValue d) (readValue d')) :
    Covers (readValue depth) (readValue depth') := by
  intro bytes v rest found more
  rw [readValue] at found ⊢
  split at found
  · cases found
  · rename_i head left read
    rw [covers_readHead read]
    cases head with
    | null | bool _ | int _ | float _ | text _ =>
      obtain ⟨rfl, rfl⟩ := Prod.mk.inj (Except.ok.inj found)
      rfl
    | bytes _ => cases found
    | extension =>
      simp only [misplacedInside] at found
      split at found <;> cases found
    | array n =>
      rcases depth with _ | d
      · cases found
      rcases depth' with _ | d'
      · exact absurd room (Nat.not_succ_le_zero d)
      · simp only at found ⊢
        split at found
        · cases found
        · rename_i items left read
          obtain ⟨rfl, rfl⟩ := Prod.mk.inj (Except.ok.inj found)
          rw [(inner d d' rfl rfl).readItems n read]
    | map n =>
      rcases depth with _ | d
      · cases found
      rcases depth' with _ | d'
      · exact absurd room (Nat.not_succ_le_zero d)
      · simp only at found ⊢
        split at found
        · cases found
        · rename_i entries left read
          obtain ⟨rfl, rfl⟩ := Prod.mk.inj (Except.ok.inj found)
          rw [(inner d d' rfl rfl).readEntries d d' n true read]

/-- A value is read again with room for more levels and with more bytes after it. -/
theorem covers_readValue (room : depth ≤ depth') : Covers (readValue depth) (readValue depth') := by
  induction depth generalizing depth' with
  | zero => exact covers_readValue_of_inner room fun d _ same => absurd same.symm (Nat.succ_ne_zero d)
  | succ depth ih =>
    refine covers_readValue_of_inner room ?_
    intro d d' same same'
    obtain rfl := Nat.succ.inj same
    exact ih (by omega)

/-- Bytes that a written value goes beyond are not read as a value. -/
theorem parse_cut {v : Value} (short : v.isShort = true) {front back : List UInt8}
    (cut : write v = front ++ back) (some : back ≠ []) : ∃ e, parse front = .error e := by
  rw [parse]
  cases found : readValue maxDepth front with
  | error e => exact ⟨e, rfl⟩
  | ok r =>
    obtain ⟨w, rest⟩ := r
    -- What was read is all of the written value, and so nothing is cut off.
    have whole := readValue_write v short (Nat.le_max_right maxDepth v.depth) []
    have again := covers_readValue (Nat.le_max_left maxDepth v.depth) found back
    rw [List.append_nil, cut, again] at whole
    obtain ⟨-, left⟩ := Prod.mk.inj (Except.ok.inj whole)
    exact absurd (List.append_eq_nil_iff.mp left).2 some

/-- Nothing follows a written value within another one. -/
theorem write_append_ne {v w : Value} (short : v.isShort = true) (short' : w.isShort = true)
    {back : List UInt8} (more : write w = write v ++ back) : back = [] := by
  have one := readValue_write v short (Nat.le_max_left v.depth w.depth) back
  have other := readValue_write w short' (Nat.le_max_right v.depth w.depth) []
  rw [List.append_nil, more, one] at other
  exact (Prod.mk.inj (Except.ok.inj other)).2

end DuplexRpc.MessagePack

import DuplexRpc.Json.Reader.Value

/-! What a reader has read stays as it is when more bytes follow. A number may go on with the bytes
that follow it, and everything else ends by itself. -/

namespace DuplexRpc.Json

/-- What is read stays as it is, whatever follows the bytes. -/
def Stable {α : Type} (read : Reader α) : Prop :=
  ∀ ⦃bytes x rest⦄, read bytes = .ok (x, rest) →
    ∀ more, read (bytes ++ more) = .ok (x, rest ++ more)

/-- What is read stays as it is, whatever follows the bytes, where some of them are left. -/
def StableInside {α : Type} (read : Reader α) : Prop :=
  ∀ ⦃bytes x b rest⦄, read bytes = .ok (x, b :: rest) →
    ∀ more, read (bytes ++ more) = .ok (x, b :: rest ++ more)

variable {α β : Type} {bytes rest : List UInt8} {b : UInt8}

theorem Stable.inside {read : Reader α} (h : Stable read) : StableInside read :=
  fun _ _ _ _ found more => h found more

theorem Stable.mapReader {read : Reader α} (f : α → β) (h : Stable read) : Stable (mapReader f read) := by
  intro bytes y rest found more
  rw [Json.mapReader] at found ⊢
  split at found
  · cases found
  · rename_i x left same
    obtain ⟨rfl, rfl⟩ := Prod.mk.inj (Except.ok.inj found)
    rw [h same more]

theorem StableInside.mapReader {read : Reader α} (f : α → β) (h : StableInside read) :
    StableInside (mapReader f read) := by
  intro bytes y b rest found more
  rw [Json.mapReader] at found ⊢
  split at found
  · cases found
  · rename_i x left same
    obtain ⟨rfl, rfl⟩ := Prod.mk.inj (Except.ok.inj found)
    rw [h same more]

theorem skipSpace_more (h : skipSpace bytes = b :: rest) (more : List UInt8) :
    skipSpace (bytes ++ more) = b :: rest ++ more := by
  induction bytes with
  | nil => cases h
  | cons c bytes ih =>
    rw [skipSpace] at h
    rw [List.cons_append, skipSpace]
    split at h
    · rename_i space
      rw [if_pos space, ih h]
    · rename_i space
      rw [if_neg space, ← h]
      rfl

theorem stable_readWord (letters : List UInt8) : Stable (readWord letters) := by
  intro bytes x rest found more
  induction letters generalizing bytes with
  | nil =>
    rw [readWord] at found ⊢
    rw [← (Prod.mk.inj (Except.ok.inj found)).2]
  | cons letter letters ih =>
    match bytes with
    | [] => cases found
    | b :: bytes =>
      rw [readWord] at found
      rw [List.cons_append, readWord]
      split at found
      · rename_i same
        rw [if_pos same, ih found]
      · cases found

theorem stable_readNamed (letters : List Char) (x : α) : Stable (readNamed letters x) := by
  intro bytes y rest found more
  rw [readNamed] at found ⊢
  split at found
  · cases found
  · rename_i left same
    obtain ⟨rfl, rfl⟩ := Prod.mk.inj (Except.ok.inj found)
    rw [stable_readWord _ same more]

end DuplexRpc.Json

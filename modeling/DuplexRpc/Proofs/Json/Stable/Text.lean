import DuplexRpc.Proofs.Json.Stable.Basic
import DuplexRpc.Proofs.Json.Text

/-! A string ends with its quote, whatever follows it. -/

namespace DuplexRpc.Json

theorem stable_readCodeUnit : Stable readCodeUnit := by
  intro bytes n rest found more
  match bytes with
  | [] | [_] | [_, _] | [_, _, _] => cases found
  | a :: b :: c :: d :: bytes =>
    rw [readCodeUnit] at found
    rw [List.cons_append, List.cons_append, List.cons_append, List.cons_append, readCodeUnit]
    split at found
    · obtain ⟨rfl, rfl⟩ := Prod.mk.inj (Except.ok.inj found)
      rfl
    · cases found

theorem stable_readLowSurrogate (high : Nat) : Stable (readLowSurrogate high) := by
  intro bytes x rest found more
  match bytes with
  | [] => cases found
  | [b] =>
    rw [readLowSurrogate] at found
    split at found <;> cases found
  | b :: c :: bytes =>
    rw [readLowSurrogate] at found
    rw [List.cons_append, List.cons_append, readLowSurrogate]
    by_cases backslash : b = ascii '\\'
    · rw [if_pos backslash] at found ⊢
      by_cases letter : c = ascii 'u'
      · rw [if_pos letter] at found ⊢
        split at found
        · cases found
        · rename_i low left unit
          rw [stable_readCodeUnit unit]
          simp only
          split at found
          · rename_i range
            obtain ⟨rfl, rfl⟩ := Prod.mk.inj (Except.ok.inj found)
            rw [if_pos range]
          · cases found
      · rw [if_neg letter] at found
        cases found
    · rw [if_neg backslash] at found
      cases found

theorem stable_readEscape : Stable readEscape := by
  intro bytes x rest found more
  match bytes with
  | [] => cases found
  | b :: bytes =>
    rw [readEscape] at found
    rw [List.cons_append, readEscape]
    cases simple : simpleEscape? b with
    | some c =>
      rw [simple] at found
      obtain ⟨rfl, rfl⟩ := Prod.mk.inj (Except.ok.inj found)
      rfl
    | none =>
      rw [simple] at found
      by_cases letter : b = ascii 'u'
      · simp only [if_pos letter] at found ⊢
        split at found
        · cases found
        · rename_i unit left read
          rw [stable_readCodeUnit read]
          simp only
          split at found
          · cases found
          · rename_i low
            rw [if_neg low]
            split at found
            · rename_i high
              rw [if_pos high]
              exact stable_readLowSurrogate unit found more
            · rename_i high
              obtain ⟨rfl, rfl⟩ := Prod.mk.inj (Except.ok.inj found)
              rw [if_neg high]
      · simp only [if_neg letter] at found
        cases found

theorem stable_readStringBytes (acc : List UInt8) : Stable (readStringBytes acc) := by
  intro bytes raw rest found more
  fun_induction readStringBytes acc bytes with
  | case1 acc => cases found
  | case2 acc bytes =>
    obtain ⟨rfl, rfl⟩ := Prod.mk.inj (Except.ok.inj found)
    exact readStringBytes_quote acc (bytes ++ more)
  | case3 acc bytes e failed quote => cases found
  | case4 acc bytes x left read quote ih =>
    rw [List.cons_append, readStringBytes_escape (stable_readEscape read more)]
    exact ih found
  | case5 acc b bytes quote backslash control => cases found
  | case6 acc b bytes quote backslash control ih =>
    rw [List.cons_append, readStringBytes_plain quote backslash control]
    exact ih found

theorem stable_readString : Stable readString := by
  intro bytes s rest found more
  rw [readString] at found ⊢
  split at found
  · cases found
  · rename_i raw left gathered
    rw [stable_readStringBytes [] gathered]
    simp only
    split at found
    · obtain ⟨rfl, rfl⟩ := Prod.mk.inj (Except.ok.inj found)
      rfl
    · cases found

end DuplexRpc.Json

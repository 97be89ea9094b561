import DuplexRpc.MessagePack.Value
import DuplexRpc.Proofs.MessagePack.Head

/-! Values within the limits that were written are read back, their entries in order, whatever
follows them. -/

namespace DuplexRpc.MessagePack

open Value

section

variable {α : Type} {item : Reader α} {bytes rest left : List UInt8} {x : α} {n depth : Nat}

theorem readItems_succ {xs : List α} (one : item bytes = .ok (x, rest))
    (others : readItems item n rest = .ok (xs, left)) :
    readItems item (n + 1) bytes = .ok (x :: xs, left) := by
  rw [readItems, one]
  simp only [others]

theorem readName_writeText {name : String} (short : isShortText name = true) (first : Bool)
    (rest : List UInt8) : readName depth first (writeText name ++ rest) = .ok (name, rest) := by
  rw [readName, readHead_writeText short]

theorem readEntries_succ {name : String} {xs : List (String × α)} {first : Bool}
    (short : isShortText name = true) (one : item bytes = .ok (x, rest))
    (others : readEntries depth item n false rest = .ok (xs, left)) :
    readEntries depth item (n + 1) first (writeText name ++ bytes) = .ok ((name, x) :: xs, left) := by
  rw [readEntries, readName_writeText short]
  simp only [one, others]

end

theorem readHead_writeNumber (n : Number) (rest : List UInt8) :
    readHead (writeNumber n ++ rest) =
      .ok (match n with
        | .int i _ => .int i
        | .float x _ => .float x, rest) := by
  cases n with
  | int i h => exact readHead_writeInt h rest
  | float x h => exact readHead_writeDouble x rest

theorem readValue_num (n : Number) (depth : Nat) (rest : List UInt8) :
    readValue depth (writeNumber n ++ rest) = .ok (.num n, rest) := by
  rw [readValue, readHead_writeNumber]
  cases n with
  | int i h => simp only [Number.ofInt?_of_range h, Option.map_some, Option.getD_some]
  | float x h => simp only [Value.ofDouble, Number.ofDouble?, dif_pos h]

mutual

/-- A value that was written is read back. -/
theorem readValue_write (v : Value) {depth : Nat} (short : v.isShort = true)
    (deep : v.depth ≤ depth) (rest : List UInt8) :
    readValue depth (write v ++ rest) = .ok (v.sorted, rest) := by
  match v with
  | .null => rw [readValue]; rfl
  | .bool true => rw [readValue]; rfl
  | .bool false => rw [readValue]; rfl
  | .num n => exact readValue_num n depth rest
  | .str s =>
    rw [readValue, write, readHead_writeText short]
    rfl
  | .arr vs =>
    cases depth with
    | zero => exact absurd deep (by simp [Value.depth])
    | succ depth =>
      obtain ⟨few, items⟩ := Bool.and_eq_true_iff.mp short
      have read := readItems_write vs items (Nat.le_of_succ_le_succ deep) rest
      rw [readValue, write, List.append_assoc, readHead_writeArrayHead (of_decide_eq_true few)]
      simp only [read]
      rfl
  | .obj fs =>
    cases depth with
    | zero => exact absurd deep (by simp [Value.depth])
    | succ depth =>
      obtain ⟨few, entries⟩ := Bool.and_eq_true_iff.mp short
      have read := readEntries_write fs entries (Nat.le_of_succ_le_succ deep) true rest
      rw [readValue, write, List.append_assoc, readHead_writeMapHead (of_decide_eq_true few)]
      simp only [read]
      rfl

theorem readItems_write (vs : List Value) {depth : Nat} (short : areShort vs = true)
    (deep : depthItems vs ≤ depth) (rest : List UInt8) :
    readItems (readValue depth) vs.length (writeItems vs ++ rest) = .ok (sortedItems vs, rest) := by
  match vs with
  | [] => rfl
  | v :: vs =>
    obtain ⟨one, others⟩ := Bool.and_eq_true_iff.mp short
    obtain ⟨low, lower⟩ := Nat.max_le.mp deep
    have first := readValue_write v one low (writeItems vs ++ rest)
    have more := readItems_write vs others lower rest
    rw [writeItems, List.append_assoc]
    exact readItems_succ first more

theorem readEntries_write (fs : List (String × Value)) {depth : Nat} (short : fieldsShort fs = true)
    (deep : depthFields fs ≤ depth) (first : Bool) (rest : List UInt8) :
    readEntries depth (readValue depth) fs.length first (writeFields fs ++ rest) =
      .ok (sortedFields fs, rest) := by
  match fs with
  | [] => rfl
  | (name, v) :: fs =>
    obtain ⟨front, others⟩ := Bool.and_eq_true_iff.mp short
    obtain ⟨named, one⟩ := Bool.and_eq_true_iff.mp front
    obtain ⟨low, lower⟩ := Nat.max_le.mp deep
    have one := readValue_write v one low (writeFields fs ++ rest)
    have more := readEntries_write fs others lower false rest
    rw [writeFields, List.append_assoc, List.append_assoc]
    exact readEntries_succ named one more

end

/-- The value at the front of the bytes is the one that was written there. -/
theorem parse_write {v : Value} (short : v.isShort = true) (deep : v.depth ≤ maxDepth)
    (rest : List UInt8) : parse (write v ++ rest) = .ok v.sorted := by
  rw [parse, readValue_write v short deep rest]

end DuplexRpc.MessagePack

import DuplexRpc.Json.Reader.Value
import DuplexRpc.Proofs.Json.Numeral
import DuplexRpc.Proofs.Json.Text

/-! A value that was written is read back unless it stands too deep, its entries in order, where no more
of a number follows. Binary64 numbers may come back as others, and nothing else changes. -/

namespace DuplexRpc.Json

open Value

/-- What comes of reading something that was written: something that resembles it is read, in order,
and all of the text is taken, unless it stands too deep. -/
def Echoes {α : Type} (tooDeep : Prop) (resembles : α → Prop) (sorted : α → α) (rest : List UInt8) :
    Except SyntaxError (α × List UInt8) → Prop
  | .error _ => tooDeep
  | .ok (w, left) => left = rest ∧ ∃ v, resembles v ∧ w = sorted v

variable {bytes rest : List UInt8} {depth : Nat}

theorem Echoes.imp {α : Type} {deep deep' : Prop} {resembles : α → Prop} {sorted : α → α}
    {outcome : Except SyntaxError (α × List UInt8)} (h : Echoes deep resembles sorted rest outcome)
    (imp : deep → deep') : Echoes deep' resembles sorted rest outcome := by
  cases outcome with
  | error e => exact imp h
  | ok x => exact h

theorem Echoes.mapReader {α β : Type} {f f' : α → β} {read : Reader α} {deep : Prop}
    {resembles : α → Prop} {resembles' : β → Prop} {sorted : α → α} {sorted' : β → β}
    (h : Echoes deep resembles sorted rest (read bytes))
    (imp : ∀ v, resembles v → resembles' (f' v)) (same : ∀ v, f (sorted v) = sorted' (f' v)) :
    Echoes deep resembles' sorted' rest (Json.mapReader f read bytes) := by
  rw [Json.mapReader]
  cases found : read bytes with
  | error e =>
    rw [found] at h
    exact h
  | ok x =>
    rw [found] at h
    obtain ⟨left, v, echo, eq⟩ := h
    exact ⟨left, f' v, imp v echo, by rw [eq, same]⟩

/-! ### First bytes -/

/-- The bytes start with neither a blank nor a closing bracket. -/
def StartsValue (bytes : List UInt8) : Prop :=
  ∃ b tail, bytes = b :: tail ∧ isSpace b = false ∧ b ≠ ascii ']'

theorem skipSpace_cons {b : UInt8} (h : isSpace b = false) (bytes : List UInt8) :
    skipSpace (b :: bytes) = b :: bytes := by
  rw [skipSpace, h]
  rfl

theorem eq_digitByte {b : UInt8} (digit : isDigit b = true) : ∃ n < 10, b = digitByte n := by
  obtain ⟨low, high⟩ := Bool.and_eq_true_iff.mp digit
  have low : 48 ≤ b.toNat := of_decide_eq_true low
  have high : b.toNat ≤ 57 := of_decide_eq_true high
  refine ⟨b.toNat - 48, by omega, ?_⟩
  rw [digitByte, Nat.add_sub_cancel' low, UInt8.ofNat_toNat]

theorem digitByte_plain : ∀ n < 10, isSpace (digitByte n) = false ∧ digitByte n ≠ ascii ']' ∧
    digitByte n ≠ ascii 'n' ∧ digitByte n ≠ ascii 't' ∧ digitByte n ≠ ascii 'f' ∧
    digitByte n ≠ ascii '-' := by
  decide

theorem decimalBytes_startsWithDigit (m : Nat) :
    ∃ b tail, decimalBytes m = b :: tail ∧ isDigit b = true := by
  cases same : decimalBytes m with
  | nil =>
    by_cases zero : m = 0
    · subst zero
      rw [decimalBytes, if_pos (by decide)] at same
      cases same
    · obtain ⟨b, tail, cons, -⟩ := decimalBytes_eq_cons zero
      rw [cons] at same
      cases same
  | cons b tail => exact ⟨b, tail, rfl, isDigit_decimalBytes m b (same ▸ List.mem_cons_self)⟩

theorem startsValue (v : Value) (rest : List UInt8) : StartsValue (write v ++ rest) := by
  have digital {b : UInt8} (digit : isDigit b = true) (tail : List UInt8) : StartsValue (b :: tail) := by
    obtain ⟨n, small, rfl⟩ := eq_digitByte digit
    exact ⟨_, _, rfl, (digitByte_plain n small).1, (digitByte_plain n small).2.1⟩
  match v with
  | .null => exact ⟨_, _, rfl, rfl, by decide⟩
  | .bool true => exact ⟨_, _, rfl, rfl, by decide⟩
  | .bool false => exact ⟨_, _, rfl, rfl, by decide⟩
  | .num (.int i h) =>
    rw [write]
    obtain ⟨m, -, -, -, same⟩ | ⟨m, -, -, same⟩ := writeNumber_int i h
    · rw [same]
      exact ⟨_, _, rfl, rfl, by decide⟩
    · obtain ⟨b, tail, cons, digit⟩ := decimalBytes_startsWithDigit m
      rw [same, cons]
      exact digital digit _
  | .num (.float x h) =>
    obtain ⟨text, numeral, same | same⟩ := writeNumber_float x h
    · obtain ⟨b, tail, cons, digit⟩ := numeral.starts
      rw [write, same, cons]
      exact digital digit _
    · rw [write, same]
      exact ⟨_, _, rfl, rfl, by decide⟩
  | .str s => exact ⟨_, _, rfl, rfl, by decide⟩
  | .arr [] => exact ⟨_, _, rfl, rfl, by decide⟩
  | .arr (_ :: _) => exact ⟨_, _, rfl, rfl, by decide⟩
  | .obj [] => exact ⟨_, _, rfl, rfl, by decide⟩
  | .obj (_ :: _) => exact ⟨_, _, rfl, rfl, by decide⟩

theorem endsNumber_cons {b : UInt8} (digit : isDigit b = false) (point : b ≠ ascii '.')
    (e : b ≠ ascii 'e') (E : b ≠ ascii 'E') (bytes : List UInt8) : EndsNumber (b :: bytes) := by
  intro c hc
  rw [← Option.some.inj hc]
  exact ⟨digit, point, e, E⟩

theorem endsNumber_writeItems (vs : List Value) (rest : List UInt8) :
    EndsNumber (writeItems vs ++ rest) := by
  cases vs <;> exact endsNumber_cons rfl (by decide) (by decide) (by decide) _

theorem endsNumber_writeEntries (fs : List (String × Value)) (rest : List UInt8) :
    EndsNumber (writeEntries fs ++ rest) := by
  rcases fs with _ | ⟨_, _⟩ <;> exact endsNumber_cons rfl (by decide) (by decide) (by decide) _

/-! ### Items and entries -/

theorem nextItem_first (h : StartsValue bytes) : nextItem true bytes = .ok (.more, bytes) := by
  obtain ⟨b, tail, rfl, space, bracket⟩ := h
  rw [nextItem, skipSpace_cons space]
  simp only [if_neg bracket, if_true]

theorem nextItem_comma (h : StartsValue bytes) :
    nextItem false (ascii ',' :: bytes) = .ok (.more, bytes) := by
  obtain ⟨b, tail, rfl, space, bracket⟩ := h
  rw [nextItem, skipSpace_cons rfl]
  simp only [if_neg (show ascii ',' ≠ ascii ']' by decide), skipSpace_cons space, if_neg bracket,
    if_true, Bool.false_eq_true, if_false]

theorem nextItem_close (first : Bool) (bytes : List UInt8) :
    nextItem first (ascii ']' :: bytes) = .ok (.done, ascii ']' :: bytes) := by
  rw [nextItem, skipSpace_cons rfl]
  simp only [if_true]

theorem nextName_first (name : String) (bytes : List UInt8) :
    nextName true (writeString name ++ bytes) = .ok (.more, writeString name ++ bytes) := by
  rw [writeString_append]
  rfl

theorem nextName_comma (name : String) (bytes : List UInt8) :
    nextName false (ascii ',' :: (writeString name ++ bytes)) =
      .ok (.more, writeString name ++ bytes) := by
  rw [writeString_append]
  rfl

theorem nextName_close (first : Bool) (bytes : List UInt8) :
    nextName first (ascii '\x7d' :: bytes) = .ok (.done, ascii '\x7d' :: bytes) := rfl

theorem readItems_close {α : Type} (item : Reader α) (fuel : Nat) (first : Bool)
    (bytes : List UInt8) :
    readItems item (fuel + 1) first (ascii ']' :: bytes) = .ok ([], bytes) := by
  rw [readItems, nextItem_close]
  rfl

theorem readEntries_close {α : Type} (item : Reader α) (fuel : Nat) (first : Bool)
    (bytes : List UInt8) :
    readEntries item (fuel + 1) first (ascii '\x7d' :: bytes) = .ok ([], bytes) := by
  rw [readEntries, nextName_close]
  rfl

section

variable {v : Value} {vs : List Value} {fs : List (String × Value)} {fuel : Nat} {first : Bool}
  {after : List UInt8}

theorem echoes_items_cons (next : nextItem first bytes = .ok (.more, write v ++ after))
    (one : Echoes (depth < v.depth) v.Resembles sorted after (readValue depth (write v ++ after)))
    (others : Echoes (depth < depthItems vs) (ItemsResemble vs) sortedItems rest
      (readItems (readValue depth) fuel false after)) :
    Echoes (depth < depthItems (v :: vs)) (ItemsResemble (v :: vs)) sortedItems rest
      (readItems (readValue depth) (fuel + 1) first bytes) := by
  rw [readItems, next, depthItems]
  simp only
  cases found : readValue depth (write v ++ after) with
  | error e =>
    rw [found] at one
    exact Nat.lt_of_lt_of_le one (Nat.le_max_left _ _)
  | ok x =>
    rw [found] at one
    obtain ⟨left, w, echo, same⟩ := one
    simp only [left]
    cases more : readItems (readValue depth) fuel false after with
    | error e =>
      rw [more] at others
      exact Nat.lt_of_lt_of_le others (Nat.le_max_right _ _)
    | ok xs =>
      rw [more] at others
      obtain ⟨left, ws, echoes, sames⟩ := others
      exact ⟨left, w :: ws, .cons echo echoes, by rw [same, sames, sortedItems]⟩

theorem echoes_entries_cons {name : String}
    (next : nextName first bytes = .ok (.more, writeString name ++ ascii ':' :: (write v ++ after)))
    (one : Echoes (depth < v.depth) v.Resembles sorted after (readValue depth (write v ++ after)))
    (others : Echoes (depth < depthFields fs) (FieldsResemble fs) sortedFields rest
      (readEntries (readValue depth) fuel false after)) :
    Echoes (depth < depthFields ((name, v) :: fs)) (FieldsResemble ((name, v) :: fs)) sortedFields rest
      (readEntries (readValue depth) (fuel + 1) first bytes) := by
  have colon : readColon (ascii ':' :: (write v ++ after)) = .ok ((), write v ++ after) := rfl
  rw [readEntries, next, depthFields]
  simp only [readEntry, writeString_append, List.drop_one, List.tail_cons, readString_escaped, colon]
  cases found : readValue depth (write v ++ after) with
  | error e =>
    rw [found] at one
    exact Nat.lt_of_lt_of_le one (Nat.le_max_left _ _)
  | ok x =>
    rw [found] at one
    obtain ⟨left, w, echo, same⟩ := one
    simp only [left]
    cases more : readEntries (readValue depth) fuel false after with
    | error e =>
      rw [more] at others
      exact Nat.lt_of_lt_of_le others (Nat.le_max_right _ _)
    | ok xs =>
      rw [more] at others
      obtain ⟨left, ws, echoes, sames⟩ := others
      exact ⟨left, (name, w) :: ws, .cons name echo echoes, by rw [same, sames, sortedFields]⟩

end

theorem length_lt_writeItems (vs : List Value) : vs.length < (writeItems vs).length := by
  induction vs with
  | nil => exact Nat.one_pos
  | cons v vs ih =>
    simp only [writeItems, List.length_cons, List.length_append]
    omega

theorem length_lt_writeEntries (fs : List (String × Value)) :
    fs.length < (writeEntries fs).length := by
  induction fs with
  | nil => exact Nat.one_pos
  | cons f fs ih =>
    obtain ⟨name, v⟩ := f
    simp only [writeEntries, List.length_cons, List.length_append]
    omega

/-! ### Values -/

theorem readValue_digit {b : UInt8} (digit : isDigit b = true) (depth : Nat) (bytes : List UInt8) :
    readValue depth (b :: bytes) = mapReader .num (readNumber false) (b :: bytes) := by
  obtain ⟨n, small, rfl⟩ := eq_digitByte digit
  obtain ⟨space, -, null, yes, no, minus⟩ := digitByte_plain n small
  rw [readValue, skipSpace_cons space]
  simp only [if_neg null, if_neg yes, if_neg no, if_neg minus, digit, if_true]

theorem readValue_minus (depth : Nat) (bytes : List UInt8) :
    readValue depth (ascii '-' :: bytes) = mapReader .num (readNumber true) bytes := by
  rw [readValue]
  rfl

theorem readValue_quote (depth : Nat) (bytes : List UInt8) :
    readValue depth (ascii '"' :: bytes) = mapReader .str readString bytes := by
  rw [readValue]
  rfl

theorem readValue_bracket (depth : Nat) (bytes : List UInt8) :
    readValue (depth + 1) (ascii '[' :: bytes) =
      mapReader .arr (readItems (readValue depth) (bytes.length + 1) true) bytes := by
  rw [readValue]
  rfl

theorem readValue_brace (depth : Nat) (bytes : List UInt8) :
    readValue (depth + 1) (ascii '\x7b' :: bytes) =
      mapReader Value.ofFields (readEntries (readValue depth) (bytes.length + 1) true) bytes := by
  rw [readValue]
  rfl

theorem readValue_int {i : Int} (h : WireRange i) (depth : Nat) (ends : EndsNumber rest) :
    readValue depth (writeNumber (.int i h) ++ rest) = .ok (.num (.int i h), rest) := by
  obtain ⟨m, -, small, literal, same⟩ | ⟨m, small, literal, same⟩ := writeNumber_int i h
  · rw [same, List.cons_append, readValue_minus, mapReader,
      readNumber_decimalBytes small ends literal]
  · obtain ⟨b, tail, cons, digit⟩ := decimalBytes_startsWithDigit m
    have read := readNumber_decimalBytes small ends literal
    rw [cons, List.cons_append] at read
    rw [same, cons, List.cons_append, readValue_digit digit, mapReader, read]

theorem echoes_float (x : Double) (h : x.isFinite = true) (ends : EndsNumber rest) :
    Echoes (depth < 0) (Resembles (.num (.float x h))) sorted rest
      (readValue depth (write (.num (.float x h)) ++ rest)) := by
  obtain ⟨text, numeral, same | same⟩ := writeNumber_float x h
  · obtain ⟨y, finite, read⟩ := numeral.reads false ends
    obtain ⟨b, tail, cons, digit⟩ := numeral.starts
    rw [cons, List.cons_append] at read
    rw [write, same, cons, List.cons_append, readValue_digit digit, mapReader, read]
    exact ⟨rfl, _, .float x y h finite, rfl⟩
  · obtain ⟨y, finite, read⟩ := numeral.reads true ends
    rw [write, same, List.cons_append, readValue_minus, mapReader, read]
    exact ⟨rfl, _, .float x y h finite, rfl⟩

mutual

/-- A value that was written is read back, unless it stands too deep. -/
theorem echoes_value (v : Value) {depth : Nat} {rest : List UInt8} (ends : EndsNumber rest) :
    Echoes (depth < v.depth) v.Resembles sorted rest (readValue depth (write v ++ rest)) := by
  match v with
  | .null =>
    rw [readValue]
    exact ⟨rfl, .null, .null, rfl⟩
  | .bool true =>
    rw [readValue]
    exact ⟨rfl, .bool true, .bool true, rfl⟩
  | .bool false =>
    rw [readValue]
    exact ⟨rfl, .bool false, .bool false, rfl⟩
  | .num (.int i h) =>
    rw [write, readValue_int h depth ends]
    exact ⟨rfl, _, .int i h, rfl⟩
  | .num (.float x h) => exact echoes_float x h ends
  | .str s =>
    rw [write, writeString_append, readValue_quote, mapReader, readString_escaped]
    exact ⟨rfl, .str s, .str s, rfl⟩
  | .arr vs =>
    cases depth with
    | zero =>
      obtain ⟨bytes, same⟩ : ∃ bytes, write (.arr vs) ++ rest = ascii '[' :: bytes := by
        cases vs <;> exact ⟨_, rfl⟩
      rw [same, readValue]
      exact Nat.succ_pos _
    | succ depth =>
      cases vs with
      | nil =>
        rw [write, List.cons_append, readValue_bracket, mapReader, List.singleton_append,
          readItems_close]
        exact ⟨rfl, _, .arr .nil, rfl⟩
      | cons v vs =>
        have enough : vs.length < (write v ++ (writeItems vs ++ rest)).length := by
          have long := length_lt_writeItems vs
          simp only [List.length_append]
          omega
        rw [write, List.cons_append, readValue_bracket, List.append_assoc]
        refine Echoes.imp ?_ Nat.succ_lt_succ
        exact (echoes_items_cons (nextItem_first (startsValue v _))
          (echoes_value v (endsNumber_writeItems vs rest)) (echoes_items vs enough)).mapReader
            (fun _ => .arr) fun _ => rfl
  | .obj fs =>
    cases depth with
    | zero =>
      obtain ⟨bytes, same⟩ : ∃ bytes, write (.obj fs) ++ rest = ascii '\x7b' :: bytes := by
        rcases fs with _ | ⟨_, _⟩ <;> exact ⟨_, rfl⟩
      rw [same, readValue]
      exact Nat.succ_pos _
    | succ depth =>
      match fs with
      | [] =>
        rw [write, List.cons_append, readValue_brace, mapReader, List.singleton_append,
          readEntries_close]
        exact ⟨rfl, _, .obj .nil, rfl⟩
      | (name, v) :: fs =>
        have enough : fs.length < (writeString name ++ ascii ':' ::
            (write v ++ (writeEntries fs ++ rest))).length := by
          have long := length_lt_writeEntries fs
          simp only [List.length_append, List.length_cons]
          omega
        rw [write, List.cons_append, readValue_brace, List.append_assoc, List.cons_append,
          List.append_assoc]
        refine Echoes.imp ?_ Nat.succ_lt_succ
        exact (echoes_entries_cons (nextName_first name _)
          (echoes_value v (endsNumber_writeEntries fs rest)) (echoes_entries fs enough)).mapReader
            (fun _ => .obj) fun _ => rfl

theorem echoes_items (vs : List Value) {depth fuel : Nat} {rest : List UInt8}
    (enough : vs.length < fuel) :
    Echoes (depth < depthItems vs) (ItemsResemble vs) sortedItems rest
      (readItems (readValue depth) fuel false (writeItems vs ++ rest)) := by
  cases fuel with
  | zero => exact absurd enough (Nat.not_lt_zero _)
  | succ fuel =>
    match vs with
    | [] =>
      rw [writeItems, List.singleton_append, readItems_close]
      exact ⟨rfl, [], .nil, rfl⟩
    | v :: vs =>
      rw [writeItems, List.cons_append, List.append_assoc]
      exact echoes_items_cons (nextItem_comma (startsValue v _))
        (echoes_value v (endsNumber_writeItems vs rest))
        (echoes_items vs (Nat.lt_of_succ_lt_succ enough))

theorem echoes_entries (fs : List (String × Value)) {depth fuel : Nat} {rest : List UInt8}
    (enough : fs.length < fuel) :
    Echoes (depth < depthFields fs) (FieldsResemble fs) sortedFields rest
      (readEntries (readValue depth) fuel false (writeEntries fs ++ rest)) := by
  cases fuel with
  | zero => exact absurd enough (Nat.not_lt_zero _)
  | succ fuel =>
    match fs with
    | [] =>
      rw [writeEntries, List.singleton_append, readEntries_close]
      exact ⟨rfl, [], .nil, rfl⟩
    | (name, v) :: fs =>
      rw [writeEntries, List.cons_append, List.append_assoc, List.cons_append, List.append_assoc]
      exact echoes_entries_cons (nextName_comma name _)
        (echoes_value v (endsNumber_writeEntries fs rest))
        (echoes_entries fs (Nat.lt_of_succ_lt_succ enough))

end

/-! ### Whole texts -/

theorem echoes_parse (v : Value) :
    (∃ v', v.Resembles v' ∧ parse (write v) = .ok v'.sorted) ∨
      maxDepth < v.depth ∧ ∃ e, parse (write v) = .error e := by
  have echoes : Echoes (maxDepth < v.depth) v.Resembles sorted []
      (readValue maxDepth (write v ++ [])) := echoes_value v nofun
  rw [List.append_nil] at echoes
  rw [parse]
  cases found : readValue maxDepth (write v) with
  | error e =>
    rw [found] at echoes
    exact .inr ⟨echoes, _, rfl⟩
  | ok x =>
    obtain ⟨w, left⟩ := x
    rw [found] at echoes
    obtain ⟨rfl, v', echo, rfl⟩ := echoes
    exact .inl ⟨v', echo, rfl⟩

/-- What is read of a whole text is something that resembles the value that was written. -/
theorem exists_of_parse_write {v w : Value} (read : parse (write v) = .ok w) :
    ∃ v', v.Resembles v' ∧ w = v'.sorted := by
  obtain ⟨v', echo, same⟩ | ⟨-, e, fault⟩ := echoes_parse v
  · exact ⟨v', echo, Except.ok.inj (read.symm.trans same)⟩
  · cases fault.symm.trans read

/-- A whole text is read, unless it stands too deep. -/
theorem exists_parse_write {v : Value} (deep : v.depth ≤ maxDepth) :
    ∃ v', v.Resembles v' ∧ parse (write v) = .ok v'.sorted :=
  (echoes_parse v).resolve_right fun h => absurd h.1 (Nat.not_lt.mpr deep)

/-- A whole text is read as the value that it was written from. -/
theorem parse_write {v : Value} (integral : v.isIntegral = true) (deep : v.depth ≤ maxDepth) :
    parse (write v) = .ok v.sorted := by
  obtain ⟨v', echo, read⟩ := exists_parse_write deep
  rwa [echo.eq_of_integral integral] at read

end DuplexRpc.Json

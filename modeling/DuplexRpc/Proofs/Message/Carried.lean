import DuplexRpc.Message.Reading
import DuplexRpc.Pending.Slot

/-! What becomes of a message on the wire: entries stand in the order of their names, a kind of error
is the kind of its code, and data that are null are none. -/

namespace DuplexRpc

open Value

/-- An error after it was carried. -/
def RpcError.carried (e : RpcError) : RpcError where
  kind := .ofCode e.kind.code
  message := e.message
  data := (e.data.map Value.sorted).filter fun v => !v.isNull

def Outcome.carried (outcome : Outcome) : Outcome :=
  match outcome with
  | .ok v => .ok v.sorted
  | .error e => .error e.carried

def Request.carried (r : Request) : Request :=
  { r with params := r.params.map Value.sorted }

def Response.carried (r : Response) : Response :=
  { r with result := Outcome.carried r.result }

def Message.carried : Message → Message
  | .notification n => .notification { n with params := n.params.map Value.sorted }
  | .request r => .request r.carried
  | .response r => .response r.carried

/-! ### Records -/

namespace Decoder

variable {α : Type}

theorem optional_ofValue {d : Decoder α} {v : Value} {x : α} (read : d.ofValue v = .ok x)
    (there : v.isNull = false) : d.optional.ofValue v = .ok (some x) := by
  cases v with
  | null => cases there
  | _ => simp only [optional, read, Except.map]

theorem int64_ofInt64 (i : Int64) : int64.ofValue (.ofInt64 i) = .ok i := by
  have fits : -0x8000000000000000 ≤ i.toInt ∧ i.toInt < 0x8000000000000000 :=
    ⟨i.le_toInt, i.toInt_lt⟩
  simp only [int64, integer, number, Value.ofInt64, Number.ofInt64, if_pos fits,
    Int64.ofInt_toInt]

end Decoder

/-! ### Errors -/

theorem RpcError.layout_sorted (e : RpcError) :
    e.layout.sorted = .obj ([("code", .ofInt64 e.kind.code)] ++
      (e.data.map fun v => ("data", v.sorted)).toList ++ [("message", .str e.message)]) := by
  obtain ⟨kind, message, data⟩ := e
  cases data <;> simp only [layout, entries, sorted, sortedFields, ofFields, Fields.ofList,
    Fields.insert, Value.ofInt64, Option.map_none, Option.map_some, Option.toList_none,
    Option.toList_some, List.append_nil, List.nil_append, List.cons_append, List.foldl_cons,
    List.foldl_nil, String.reduceLT, String.reduceEq, ↓reduceIte]

theorem RpcError.decoder_layout (e : RpcError) :
    decoder.ofValue e.layout.sorted = .ok e.carried := by
  rw [layout_sorted]
  obtain ⟨kind, message, data⟩ := e
  have code := Decoder.int64_ofInt64 kind.code
  cases data with
  | none =>
    simp [decoder, Decoder.record, Decoder.recordOfEntries, Decoder.fieldOf?, Field.required,
      Decoder.map, code, Except.map, Decoder.string, Decoder.textual, Decoder.fillAbsent, bind,
      Except.bind, carried, ofKind, Field.optional]
  | some v =>
    simp [decoder, Decoder.record, Decoder.recordOfEntries, Decoder.fieldOf?, Field.required,
      Decoder.map, code, Except.map, Decoder.string, Decoder.textual, Decoder.fillAbsent, bind,
      Except.bind, carried, ofKind, Field.optional, Decoder.optional, Decoder.value]
    cases v.sorted <;> rfl

theorem RpcError.optional_layout (e : RpcError) :
    decoder.optional.ofValue e.layout.sorted = .ok (some e.carried) :=
  Decoder.optional_ofValue e.decoder_layout (by rw [layout_sorted]; rfl)

/-! ### Messages -/

theorem Id.sorted_toValue (id : Id) : id.toValue.sorted = id.toValue := by
  cases id <;> rfl

theorem Id.optional_toValue (id : Id) : decoder.optional.ofValue id.toValue = .ok (some id) := by
  cases id <;> rfl

namespace Message

/-- The entries of a message after they were carried. -/
def carriedEntries : Message → List (String × Value)
  | .notification n =>
    [("jsonrpc", .str version), ("method", .str n.method)] ++ entry "params" (n.params.map sorted)
  | .request r =>
    [("id", r.id.toValue), ("jsonrpc", .str version), ("method", .str r.method)] ++
      entry "params" (r.params.map sorted)
  | .response ⟨id, .ok v⟩ =>
    [("id", id.toValue), ("jsonrpc", .str version), ("result", v.sorted)]
  | .response ⟨id, .error e⟩ =>
    [("error", e.layout.sorted), ("id", id.toValue), ("jsonrpc", .str version)]

theorem layout_sorted (m : Message) : m.layout.sorted = .obj m.carriedEntries := by
  match m with
  | .notification ⟨method, params⟩ =>
    cases params <;> simp only [layout, entriesWith, carriedEntries, entry, sorted, sortedFields,
      ofFields, Fields.ofList, Fields.insert, Option.map_none, Option.map_some, List.append_nil,
      List.nil_append, List.cons_append, List.foldl_cons, List.foldl_nil, String.reduceLT,
      String.reduceEq, ↓reduceIte]
  | .request ⟨id, method, params⟩ =>
    cases params <;> simp only [layout, entriesWith, carriedEntries, entry, sorted, sortedFields,
      ofFields, Fields.ofList, Fields.insert, Id.sorted_toValue, Option.map_none, Option.map_some,
      List.append_nil, List.nil_append, List.cons_append, List.foldl_cons, List.foldl_nil,
      String.reduceLT, String.reduceEq, ↓reduceIte]
  | .response ⟨id, .ok v⟩ =>
    simp only [layout, entriesWith, carriedEntries, sorted, sortedFields, ofFields, Fields.ofList,
      Fields.insert, Id.sorted_toValue, List.foldl_cons, List.foldl_nil, String.reduceLT,
      String.reduceEq, ↓reduceIte]
  | .response ⟨id, .error e⟩ =>
    simp only [layout, entriesWith, carriedEntries, sorted, sortedFields, ofFields, Fields.ofList,
      Fields.insert, Id.sorted_toValue, List.foldl_cons, List.foldl_nil, String.reduceLT,
      ↓reduceIte]

theorem checkVersion_carried (m : Message) : checkVersion m.carriedEntries = .ok () := by
  match m with
  | .notification ⟨method, params⟩ => rfl
  | .request ⟨id, method, params⟩ => rfl
  | .response ⟨id, .ok v⟩ => rfl
  | .response ⟨id, .error e⟩ => rfl

/-- The fields of a message before its kind is known. -/
def raw : Message → RawMessage
  | .notification n => { method := some n.method, params := n.params }
  | .request r => { id := some r.id, method := some r.method, params := r.params }
  | .response ⟨id, .ok v⟩ => { id := some id, result := some v }
  | .response ⟨id, .error e⟩ => { id := some id, error := some e }

theorem classify_raw (m : Message) : m.raw.classify = .ok m := by
  match m with
  | .notification ⟨method, params⟩ => rfl
  | .request ⟨id, method, params⟩ => rfl
  | .response ⟨id, .ok v⟩ => rfl
  | .response ⟨id, .error e⟩ => rfl

theorem decoder_carried (m : Message) :
    RawMessage.decoder.ofValue (.obj m.carriedEntries) = .ok m.carried.raw := by
  match m with
  | .notification ⟨method, params⟩ => cases params <;> rfl
  | .request ⟨id, method, params⟩ =>
    cases params <;> cases id <;> rfl
  | .response ⟨id, .ok v⟩ => cases id <;> rfl
  | .response ⟨id, .error e⟩ =>
    have error := e.optional_layout
    have id' := id.optional_toValue
    simp [RawMessage.decoder, carriedEntries, Decoder.record, Decoder.recordOfEntries,
      Decoder.fieldOf?, Field.optional, Decoder.map, Except.map, error, id']
    rfl

/-- A message that was laid out is read back as it was carried. -/
theorem ofValue?_layout (m : Message) : ofValue? m.layout.sorted = .ok m.carried := by
  rw [layout_sorted, ofValue?]
  simp only [checkVersion_carried, decoder_carried, classify_raw]

end Message

end DuplexRpc

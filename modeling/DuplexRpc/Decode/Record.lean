import DuplexRpc.Decode.Decoder

/-!
Records: objects with fixed fields, which may also be written as lists in the order of the fields.
The fields of an object are decoded in the order in which they stand, other entries are passed over,
and only then is the first field reported that is missing.
-/

namespace DuplexRpc

open Json

/-- A field of a record `σ` that is filled step by step. -/
structure Field (σ : Type) where
  name : String
  /-- What the field's value does to the record. -/
  decoder : Decoder (σ → σ)
  /-- What is done where the field is missing; none where it must be there. -/
  absent : Option (σ → σ)
  /-- A list may end before the field if the field may be missing. -/
  trails : Bool := true

namespace Field

variable {σ α : Type}

def required (name : String) (d : Decoder α) (set : α → σ → σ) : Field σ :=
  { name, decoder := d.map set, absent := none }

/-- A field that leaves the record as it is where it is missing. -/
def optional (name : String) (d : Decoder α) (set : α → σ → σ) : Field σ :=
  { name, decoder := d.map set, absent := some id }

/-- A field that may be missing in an object, but not in a list. -/
def named (name : String) (d : Decoder α) (set : α → σ → σ) : Field σ :=
  { optional name d set with trails := false }

/-- What is done where a list ends before the field; none where it must not. -/
def absentInList (f : Field σ) : Option (σ → σ) :=
  if f.trails then f.absent else none

end Field

namespace Decoder

variable {σ : Type}

/-- The wording of the number of fields. -/
def elementsExpected (type : String) (fields : List (Field σ)) : String :=
  let n := fields.length
  s!"struct {type} with {n} " ++ (if n = 1 then "element" else "elements")

def fieldOf? (fields : List (Field σ)) (name : String) : Option (Field σ) :=
  fields.find? (·.name == name)

/-- Fills the fields that were not given, or reports the first one that is missing. -/
def fillAbsent (given : List String) : List (Field σ) → σ → Except Mismatch σ
  | [], s => .ok s
  | f :: fs, s =>
    if given.contains f.name then fillAbsent given fs s
    else match f.absent with
      | some g => fillAbsent given fs (g s)
      | none => .error (.missingField f.name)

/-- Decodes entries in their order; entries that are no fields are passed over. -/
def recordOfEntries (fields : List (Field σ)) : List (String × Value) → σ → Except Mismatch σ
  | [], s => .ok s
  | (name, v) :: rest, s =>
    match fieldOf? fields name with
    | none => recordOfEntries fields rest s
    | some f =>
      match f.decoder.ofValue v with
      | .error m => .error m
      | .ok g => recordOfEntries fields rest (g s)

/-- Decodes items in the order of the fields. -/
def recordOfItems (expected : String) (place : Nat) :
    List (Field σ) → List Value → σ → Except Mismatch σ
  | [], [], s => .ok s
  | [], more, _ => .error (.invalidLength (place + more.length) "fewer elements in array")
  | f :: fs, [], s =>
    match f.absentInList with
    | some g => recordOfItems expected (place + 1) fs [] (g s)
    | none => .error (.invalidLength place expected)
  | f :: fs, v :: vs, s =>
    match f.decoder.ofValue v with
    | .error m => .error m
    | .ok g => recordOfItems expected (place + 1) fs vs (g s)

/-- Reads the entries of an object up to its brace, which stays. `given` holds the fields that were
met before. -/
def recordEntries (fields : List (Field σ)) (depth : Nat) :
    (fuel : Nat) → (given : List String) → (first : Bool) → σ → List UInt8 →
      Except TextError (σ × List UInt8)
  | 0, _, _, _, _ => lift (faultAt .endInObject [])
  | fuel + 1, given, first, s, bytes => do
    match ← lift (nextName first bytes) with
    | (.done, rest) =>
      match fillAbsent given fields s with
      | .ok s => .ok (s, rest)
      | .error m => unplaced m rest
    | (.more, rest) =>
      let (name, rest) ← lift (readString (rest.drop 1))
      match fieldOf? fields name with
      | none =>
        let (_, rest) ← lift (readColon rest)
        let (_, rest) ← lift (skipValue rest)
        recordEntries fields depth fuel given false s rest
      | some f =>
        if given.contains name then unplaced (.duplicateField name) rest
        else
          let (_, rest) ← lift (readColon rest)
          let (g, rest) ← f.decoder.ofText depth rest
          recordEntries fields depth fuel (name :: given) false (g s) rest

/-- Reads the items of a list in the order of the fields, up to where the fields end. -/
def recordItems (expected : String) (depth : Nat) :
    (place : Nat) → List (Field σ) → σ → List UInt8 →
      Except TextError (σ × List UInt8)
  | _, [], s, bytes => .ok (s, bytes)
  | place, f :: fs, s, bytes => do
    let (g, rest) ← itemAt f.decoder depth (place == 0) bytes
    match g, f.absentInList with
    | some g, _ => recordItems expected depth (place + 1) fs (g s) rest
    | none, some g => recordItems expected depth (place + 1) fs (g s) rest
    | none, none => unplaced (.invalidLength place expected) rest

/-- A record, from an object or from a list. -/
def record (type : String) (fields : List (Field σ)) (start : σ) : Decoder σ where
  ofValue
    | .obj entries => do
      let s ← recordOfEntries fields entries start
      fillAbsent (entries.map (·.1)) fields s
    | .arr items => recordOfItems (elementsExpected type fields) 0 fields items start
    | v => .error (.invalidType (.ofValue v) s!"struct {type}")
  ofText depth bytes := do
    let (b, rest) ← peek bytes
    if b = ascii '[' then
      let depth ← enter depth (b :: rest)
      finishList (recordItems (elementsExpected type fields) depth 0 fields start rest)
    else if b = ascii '\x7b' then
      let depth ← enter depth (b :: rest)
      finishObject (recordEntries fields depth (rest.length + 1) [] true start rest)
    else readMisfit s!"struct {type}" (b :: rest)

def variantOf? {α : Type} (variants : List (String × α)) (name : String) : Except Mismatch α :=
  match variants.lookup name with
  | some x => .ok x
  | none => .error (.unknownVariant name (variants.map (·.1)))

/-- One of fixed names, or an object with such a name and null as its only entry. -/
def choice {α : Type} (variants : List (String × α)) : Decoder α where
  ofValue
    | .str name => variantOf? variants name
    | .obj [(name, v)] => do
      let x ← variantOf? variants name
      let _ ← unit.ofValue v
      .ok x
    | .obj _ => .error (.invalidValue .map "map with a single key")
    | v => .error (.invalidType (.ofValue v) "string or map")
  ofText depth bytes :=
    let name := textual "variant identifier" (variantOf? variants)
    match skipSpace bytes with
    | [] => lift (faultAt .endInValue [])
    | b :: rest =>
      if b = ascii '\x7b' then do
        let depth ← enter depth (b :: rest)
        let (x, rest) ← name.ofText depth rest
        let (_, rest) ← lift (readColon rest)
        let (_, rest) ← unit.ofText depth rest
        match skipSpace rest with
        | [] => lift (faultAt .endInObject [])
        | c :: rest =>
          if c = ascii '\x7d' then .ok (x, rest) else lift (faultAt .expectedValue (c :: rest))
      else if b = ascii '"' then name.ofText depth (b :: rest)
      else lift (faultOn .expectedValue (b :: rest))

end Decoder

end DuplexRpc

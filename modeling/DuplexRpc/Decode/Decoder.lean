import DuplexRpc.Decode.Mismatch
import DuplexRpc.Json.Reader.Skip

/-!
Decoders: what a type accepts, said once for values and once for JSON text. Reading text directly
gives the place of a mismatch, and meets faults in the order of the text; reading a value has no
places.
-/

namespace DuplexRpc

open Json

/-- Why a text cannot be read as a type. A mismatch comes with the bytes that were left when it was
noticed; their place belongs to the message once the mismatch is `placed`. -/
inductive TextError where
  | syntactic (e : SyntaxError)
  | mismatch (m : Mismatch) (rest : List UInt8) (placed : Bool)
deriving DecidableEq, Repr

/-- The message of an error in a text. -/
def TextError.message (text : List UInt8) : TextError → String
  | .syntactic e => e.message text
  | .mismatch m _ false => m.message
  | .mismatch m rest true => m.message ++ (Place.ofLeft text rest.length).suffix

/-- Reads a typed value from the front of the bytes, with room for `depth` arrays and objects inside
each other. -/
abbrev TextReader (α : Type) :=
  (depth : Nat) → List UInt8 → Except TextError (α × List UInt8)

/-- What a type accepts. -/
structure Decoder (α : Type) where
  /-- Reads a value. -/
  ofValue : Value → Except Mismatch α
  /-- Reads JSON text. -/
  ofText : TextReader α

namespace Decoder

variable {α β : Type}

/-- A syntax error as an error of typed reading. -/
def lift (r : Except SyntaxError α) : Except TextError α :=
  r.mapError .syntactic

def misfit (m : Mismatch) (bytes : List UInt8) : Except TextError α :=
  .error (.mismatch m bytes true)

/-- A mismatch whose place is settled where the brackets around it are closed. -/
def unplaced (m : Mismatch) (bytes : List UInt8) : Except TextError α :=
  .error (.mismatch m bytes false)

/-- Reads what stands in place of an expected value and reports it. Words, numbers and strings are
read to their end; a bracket stays. -/
def readMisfit (expected : String) (bytes : List UInt8) : Except TextError α :=
  let report (found : Found) (rest : List UInt8) : Except TextError α :=
    misfit (.invalidType found expected) rest
  match bytes with
  | [] => lift (faultOn .expectedValue [])
  | b :: rest =>
    if b = ascii 'n' then do
      let (_, rest) ← lift (readNamed ['u', 'l', 'l'] () rest)
      report .null rest
    else if b = ascii 't' then do
      let (_, rest) ← lift (readNamed ['r', 'u', 'e'] () rest)
      report (.bool true) rest
    else if b = ascii 'f' then do
      let (_, rest) ← lift (readNamed ['a', 'l', 's', 'e'] () rest)
      report (.bool false) rest
    else if b = ascii '-' then do
      let (n, rest) ← lift (readNumber true rest)
      report (.ofNumber n) rest
    else if isDigit b then do
      let (n, rest) ← lift (readNumber false (b :: rest))
      report (.ofNumber n) rest
    else if b = ascii '"' then do
      let (s, rest) ← lift (readString rest)
      report (.text s) rest
    else if b = ascii '[' then report .sequence (b :: rest)
    else if b = ascii '\x7b' then report .map (b :: rest)
    else lift (faultOn .expectedValue (b :: rest))

/-- Looks at the next byte after blanks, which must be there. -/
def peek (bytes : List UInt8) : Except TextError (UInt8 × List UInt8) :=
  match skipSpace bytes with
  | [] => lift (faultAt .endInValue [])
  | b :: rest => .ok (b, rest)

/-- What is decoded is turned by a function. -/
def map (f : α → β) (d : Decoder α) : Decoder β where
  ofValue v := (d.ofValue v).map f
  ofText depth bytes := (d.ofText depth bytes).map fun (x, rest) => (f x, rest)

/-- What is decoded is checked by a function that may refuse it. -/
def check (f : α → Except Mismatch β) (d : Decoder α) : Decoder β where
  ofValue v := (d.ofValue v).bind f
  ofText depth bytes := do
    let (x, rest) ← d.ofText depth bytes
    match f x with
    | .ok y => .ok (y, rest)
    | .error m => misfit m rest

def value : Decoder Value where
  ofValue := .ok
  ofText depth bytes := lift (readValue depth bytes)

/-- What a function makes of a value as a whole. The value is read first, so what does not fit has
no place of its own. -/
def buffered (f : Value → Except Mismatch α) : Decoder α where
  ofValue := f
  ofText depth bytes := do
    let (v, rest) ← lift (readValue depth bytes)
    match f v with
    | .ok x => .ok (x, rest)
    | .error m => unplaced m rest

/-- A number, which `accept` may refuse. -/
def number (expected : String) (accept : Number → Except Mismatch α) : Decoder α where
  ofValue
    | .num n => accept n
    | v => .error (.invalidType (.ofValue v) expected)
  ofText _ bytes := do
    let (b, rest) ← peek bytes
    let finish (r : Number × List UInt8) : Except TextError (α × List UInt8) :=
      match accept r.1 with
      | .ok x => .ok (x, r.2)
      | .error m => misfit m r.2
    if b = ascii '-' then lift (readNumber true rest) >>= finish
    else if isDigit b then lift (readNumber false (b :: rest)) >>= finish
    else readMisfit expected (b :: rest)

def integer (expected : String) (fits : Int → Option α) : Decoder α :=
  number expected fun
    | .int i _ =>
      match fits i with
      | some x => .ok x
      | none => .error (.invalidValue (.integer i) expected)
    | .float x _ => .error (.invalidType (.double x) expected)

def int64 : Decoder Int64 :=
  integer "i64" fun i =>
    if -0x8000000000000000 ≤ i ∧ i < 0x8000000000000000 then some (Int64.ofInt i) else none

def uint64 : Decoder UInt64 :=
  integer "u64" fun i =>
    if 0 ≤ i ∧ i < 0x10000000000000000 then some (UInt64.ofNat i.toNat) else none

def size : Decoder UInt64 :=
  integer "usize" fun i =>
    if 0 ≤ i ∧ i < 0x10000000000000000 then some (UInt64.ofNat i.toNat) else none

def int8 : Decoder Int8 :=
  integer "i8" fun i => if -128 ≤ i ∧ i < 128 then some (Int8.ofInt i) else none

def uint8 : Decoder UInt8 :=
  integer "u8" fun i => if 0 ≤ i ∧ i < 256 then some (UInt8.ofNat i.toNat) else none

/-- A binary64 number; an integer is rounded to the nearest one. -/
def double : Decoder Double :=
  number "f64" fun
    | .int i _ => .ok (Double.ofInt i)
    | .float x _ => .ok x

def bool : Decoder Bool where
  ofValue
    | .bool b => .ok b
    | v => .error (.invalidType (.ofValue v) "a boolean")
  ofText _ bytes := do
    let (b, rest) ← peek bytes
    if b = ascii 't' then lift (readNamed ['r', 'u', 'e'] true rest)
    else if b = ascii 'f' then lift (readNamed ['a', 'l', 's', 'e'] false rest)
    else readMisfit "a boolean" (b :: rest)

/-- A string that `accept` may refuse. -/
def textual (expected : String) (accept : String → Except Mismatch α) : Decoder α where
  ofValue
    | .str s => accept s
    | v => .error (.invalidType (.ofValue v) expected)
  ofText _ bytes := do
    let (b, rest) ← peek bytes
    if b = ascii '"' then
      let (s, rest) ← lift (readString rest)
      match accept s with
      | .ok x => .ok (x, rest)
      | .error m => misfit m rest
    else readMisfit expected (b :: rest)

def string : Decoder String :=
  textual "a string" .ok

def unit : Decoder Unit where
  ofValue
    | .null => .ok ()
    | v => .error (.invalidType (.ofValue v) "unit")
  ofText _ bytes := do
    let (b, rest) ← peek bytes
    if b = ascii 'n' then lift (readNamed ['u', 'l', 'l'] () rest)
    else readMisfit "unit" (b :: rest)

/-- Null, or what another decoder accepts. -/
def optional (d : Decoder α) : Decoder (Option α) where
  ofValue
    | .null => .ok none
    | v => (d.ofValue v).map some
  ofText depth bytes :=
    match skipSpace bytes with
    | b :: rest =>
      if b = ascii 'n' then lift (readNamed ['u', 'l', 'l'] none rest)
      else (d.ofText depth (b :: rest)).map fun (x, rest) => (some x, rest)
    | [] => (d.ofText depth []).map fun (x, rest) => (some x, rest)

/-- The bytes after the end of a list was looked for, whether it was found or not. -/
def afterList (bytes : List UInt8) : List UInt8 :=
  match skipSpace bytes with
  | [] => []
  | b :: rest =>
    if b = ascii ']' then rest else if b = ascii ',' then skipSpace rest else b :: rest

/-- The bytes after the end of an object was looked for, whether it was found or not. -/
def afterObject (bytes : List UInt8) : List UInt8 :=
  match skipSpace bytes with
  | [] => []
  | b :: rest => if b = ascii '\x7d' then rest else b :: rest

/-- Takes the bracket at the end of a list. -/
def closeList (bytes : List UInt8) : Except TextError (List UInt8) :=
  match skipSpace bytes with
  | [] => lift (faultAt .endInList [])
  | b :: rest =>
    if b = ascii ']' then .ok rest
    else if b = ascii ',' then
      match skipSpace rest with
      | [] => lift (faultAt .trailingCharacters [])
      | c :: rest =>
        if c = ascii ']' then lift (faultOn .trailingComma (c :: rest))
        else lift (faultOn .trailingCharacters (c :: rest))
    else lift (faultOn .trailingCharacters (b :: rest))

/-- Takes the brace at the end of an object. -/
def closeObject (bytes : List UInt8) : Except TextError (List UInt8) :=
  match skipSpace bytes with
  | [] => lift (faultAt .endInObject [])
  | b :: rest =>
    if b = ascii '\x7d' then .ok rest
    else if b = ascii ',' then lift (faultOn .trailingComma (b :: rest))
    else lift (faultOn .trailingCharacters (b :: rest))

/-- Closes a list after its content. A mismatch of the content without a place gets the place after
the end of the list was looked for. -/
def finishList : Except TextError (α × List UInt8) → Except TextError (α × List UInt8)
  | .ok (x, rest) => (closeList rest).map fun rest => (x, rest)
  | .error (.mismatch m rest false) => misfit m (afterList rest)
  | .error e => .error e

/-- Closes an object after its content, as `finishList` does. -/
def finishObject : Except TextError (α × List UInt8) → Except TextError (α × List UInt8)
  | .ok (x, rest) => (closeObject rest).map fun rest => (x, rest)
  | .error (.mismatch m rest false) => misfit m (afterObject rest)
  | .error e => .error e

/-- Enters a bracket, which needs room for one more. -/
def enter (depth : Nat) (bytes : List UInt8) : Except TextError Nat :=
  match depth with
  | 0 => lift (faultOn .tooDeep bytes)
  | depth + 1 => .ok depth

/-- Reads the items of a list up to its bracket, which stays. -/
def listItems (d : Decoder α) (depth : Nat) :
    (fuel : Nat) → (first : Bool) → List UInt8 → Except TextError (List α × List UInt8)
  | 0, _, _ => lift (faultAt .endInList [])
  | fuel + 1, first, bytes => do
    match ← lift (nextItem first bytes) with
    | (.done, rest) => .ok ([], rest)
    | (.more, rest) =>
      let (x, rest) ← d.ofText depth rest
      let (xs, rest) ← listItems d depth fuel false rest
      .ok (x :: xs, rest)

def list (d : Decoder α) : Decoder (List α) where
  ofValue
    | .arr items => items.mapM d.ofValue
    | v => .error (.invalidType (.ofValue v) "a sequence")
  ofText depth bytes := do
    let (b, rest) ← peek bytes
    if b = ascii '[' then
      let depth ← enter depth (b :: rest)
      finishList (listItems d depth (rest.length + 1) true rest)
    else readMisfit "a sequence" (b :: rest)

/-- Reads the item of a list at a fixed place, none where the list ends before it. -/
def itemAt (d : Decoder α) (depth : Nat) (first : Bool) (bytes : List UInt8) :
    Except TextError (Option α × List UInt8) := do
  match ← lift (nextItem first bytes) with
  | (.done, rest) => .ok (none, rest)
  | (.more, rest) =>
    let (x, rest) ← d.ofText depth rest
    .ok (some x, rest)

/-- The wording of what a pair of values expects. -/
def pairExpected : String :=
  "a tuple of size 2"

def pair (d : Decoder α) (e : Decoder β) : Decoder (α × β) where
  ofValue
    | .arr [] => .error (.invalidLength 0 pairExpected)
    | .arr [a] => do
      let _ ← d.ofValue a
      .error (.invalidLength 1 pairExpected)
    | .arr (a :: b :: more) => do
      let x ← d.ofValue a
      let y ← e.ofValue b
      if more.isEmpty then .ok (x, y)
      else .error (.invalidLength (more.length + 2) "fewer elements in array")
    | v => .error (.invalidType (.ofValue v) pairExpected)
  ofText depth bytes := do
    let (b, rest) ← peek bytes
    if b = ascii '[' then
      let depth ← enter depth (b :: rest)
      finishList do
        let (x, rest) ← itemAt d depth true rest
        let some x := x | unplaced (.invalidLength 0 pairExpected) rest
        let (y, rest) ← itemAt e depth false rest
        let some y := y | unplaced (.invalidLength 1 pairExpected) rest
        .ok ((x, y), rest)
    else readMisfit pairExpected (b :: rest)

/-- Reads the entries of an object up to its brace, which stays. -/
def mapEntries (d : Decoder α) (depth : Nat) :
    (fuel : Nat) → (first : Bool) → List UInt8 →
      Except TextError (List (String × α) × List UInt8)
  | 0, _, _ => lift (faultAt .endInObject [])
  | fuel + 1, first, bytes => do
    match ← lift (nextName first bytes) with
    | (.done, rest) => .ok ([], rest)
    | (.more, rest) =>
      let (name, rest) ← lift (readString (rest.drop 1))
      let (_, rest) ← lift (readColon rest)
      let (x, rest) ← d.ofText depth rest
      let (xs, rest) ← mapEntries d depth fuel false rest
      .ok ((name, x) :: xs, rest)

/-- An object whose entries are all of one type. -/
def entries (d : Decoder α) : Decoder (List (String × α)) where
  ofValue
    | .obj fields => fields.mapM fun (name, v) => (d.ofValue v).map fun x => (name, x)
    | v => .error (.invalidType (.ofValue v) "a map")
  ofText depth bytes := do
    let (b, rest) ← peek bytes
    if b = ascii '\x7b' then
      let depth ← enter depth (b :: rest)
      (finishObject (mapEntries d depth (rest.length + 1) true rest)).map fun (xs, rest) =>
        (Fields.ofList xs, rest)
    else readMisfit "a map" (b :: rest)

def parse (d : Decoder α) (text : List UInt8) : Except TextError α := do
  let (x, rest) ← d.ofText maxDepth text
  let _ ← lift (readEnd rest)
  .ok x

end Decoder

end DuplexRpc

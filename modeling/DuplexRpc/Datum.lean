import DuplexRpc.Value.Basic

/-!
Data of the host: what callers and handlers hand over to be carried as a value. Not every datum is
a value, so encoding may fail.
-/

namespace DuplexRpc

/-- The name of an entry before it is known to have a text. -/
inductive DatumKey where
  | text (s : String)
  | int (i : Int)
  | bool (b : Bool)
  | composite
deriving DecidableEq, Repr

/-- A datum of the host. -/
inductive Datum where
  /-- A datum that is a value already. -/
  | value (v : Value)
  | int (i : Int)
  | double (x : Double)
  | list (items : List Datum)
  | map (entries : List (DatumKey × Datum))
  /-- A datum that refuses to be carried. -/
  | refused (reason : String)

/-- Why a datum is no value. -/
inductive EncodeFault where
  | numberOutOfRange
  | keyNotString
  | refused (reason : String)
deriving DecidableEq, Repr

def EncodeFault.message : EncodeFault → String
  | .numberOutOfRange => "number out of range"
  | .keyNotString => "key must be a string"
  | .refused reason => reason

namespace DatumKey

/-- The text of a key: numbers and truth values are written out. -/
def encode : DatumKey → Except EncodeFault String
  | .text s => .ok s
  | .int i => .ok (toString i)
  | .bool b => .ok (toString b)
  | .composite => .error .keyNotString

end DatumKey

namespace Datum

mutual

/-- The value of a datum. A number that is not finite becomes null. -/
def encode : Datum → Except EncodeFault Value
  | .value v => .ok v
  | .int i =>
    match Number.ofInt? i with
    | some n => .ok (.num n)
    | none => .error .numberOutOfRange
  | .double x => .ok (.ofDouble x)
  | .list items =>
    match encodeItems items with
    | .ok vs => .ok (.arr vs)
    | .error e => .error e
  | .map entries =>
    match encodeEntries entries with
    | .ok fs => .ok (.ofFields fs)
    | .error e => .error e
  | .refused reason => .error (.refused reason)

def encodeItems : List Datum → Except EncodeFault (List Value)
  | [] => .ok []
  | d :: ds =>
    match encode d with
    | .error e => .error e
    | .ok v =>
      match encodeItems ds with
      | .error e => .error e
      | .ok vs => .ok (v :: vs)

def encodeEntries : List (DatumKey × Datum) → Except EncodeFault (List (String × Value))
  | [] => .ok []
  | (key, d) :: es =>
    match key.encode with
    | .error e => .error e
    | .ok name =>
      match encode d with
      | .error e => .error e
      | .ok v =>
        match encodeEntries es with
        | .error e => .error e
        | .ok fs => .ok ((name, v) :: fs)

end

end Datum

end DuplexRpc

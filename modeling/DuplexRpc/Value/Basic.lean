import DuplexRpc.Value.Number
import DuplexRpc.Value.Fields

/-!
The values that messages carry. Both wire formats are read into this one type, so the rules for
messages do not depend on the format.
-/

namespace DuplexRpc

/-- A value of the wire. The entries of an object stand in rising order of their names. -/
inductive Value where
  | null
  | bool (b : Bool)
  | num (n : Number)
  | str (s : String)
  | arr (items : List Value)
  | obj (fields : List (String × Value))
deriving Repr, Inhabited

namespace Value

def isNull : Value → Bool
  | .null => true
  | _ => false

def get? (name : String) : Value → Option Value
  | .obj fields => Fields.get? name fields
  | _ => none

/-- An object from entries in any order. -/
def ofFields (entries : List (String × Value)) : Value :=
  .obj (Fields.ofList entries)

/-- A binary64 number as a value; an infinity or a NaN becomes null. -/
def ofDouble (x : Double) : Value :=
  match Number.ofDouble? x with
  | some n => .num n
  | none => .null

def ofInt64 (i : Int64) : Value :=
  .num (.ofInt64 i)

def ofUInt64 (n : UInt64) : Value :=
  .num (.ofUInt64 n)

mutual

/-- Equal as values: numbers are compared by `Number.same`. -/
def same : Value → Value → Bool
  | .null, .null => true
  | .bool a, .bool b => a == b
  | .num a, .num b => a.same b
  | .str a, .str b => a == b
  | .arr a, .arr b => sameItems a b
  | .obj a, .obj b => sameFields a b
  | _, _ => false

def sameItems : List Value → List Value → Bool
  | [], [] => true
  | a :: as, b :: bs => same a b && sameItems as bs
  | _, _ => false

def sameFields : List (String × Value) → List (String × Value) → Bool
  | [], [] => true
  | (m, a) :: as, (n, b) :: bs => m == n && same a b && sameFields as bs
  | _, _ => false

end

mutual

/-- How many arrays and objects stand inside each other. -/
def depth : Value → Nat
  | .arr items => depthItems items + 1
  | .obj fields => depthFields fields + 1
  | _ => 0

def depthItems : List Value → Nat
  | [] => 0
  | v :: vs => max (depth v) (depthItems vs)

def depthFields : List (String × Value) → Nat
  | [] => 0
  | (_, v) :: fs => max (depth v) (depthFields fs)

end

mutual

/-- The value with the entries of all its objects in order of their names. -/
def sorted : Value → Value
  | .arr items => .arr (sortedItems items)
  | .obj fields => ofFields (sortedFields fields)
  | v => v

/-- The items, each with its entries in order. -/
def sortedItems : List Value → List Value
  | [] => []
  | v :: vs => sorted v :: sortedItems vs

/-- The entries, each with the entries of its value in order. -/
def sortedFields : List (String × Value) → List (String × Value)
  | [] => []
  | (name, v) :: fs => (name, sorted v) :: sortedFields fs

end

end Value

end DuplexRpc

import DuplexRpc.Decode.Decoder
import DuplexRpc.Json.Writer

/-!
The ids of requests. A number and a text are different ids, and so are 1 and 1.0.
-/

namespace DuplexRpc

/-- Names a request; its response carries the same id. -/
inductive Id where
  | num (n : Number)
  | str (s : String)
deriving DecidableEq, Repr

namespace Id

/-- A 64-bit signed integer as an id. -/
def ofInt64 (i : Int64) : Id :=
  .num (.ofInt64 i)

/-- Equal as ids: the kinds agree, and numbers are compared by `Number.same`. -/
def same : Id → Id → Bool
  | .num a, .num b => a.same b
  | .str a, .str b => a == b
  | _, _ => false

/-- The text of an id in messages: a number by its digits, a text between quotes. -/
def text : Id → String
  | .num n => n.text
  | .str s => Text.quoted s

def describe : Id → String
  | .num n => s!"Num(Number({n.text}))"
  | .str s => s!"Str({Text.quoted s})"

def toValue : Id → Value
  | .num n => .num n
  | .str s => .str s

def ofValue? : Value → Option Id
  | .num n => some (.num n)
  | .str s => some (.str s)
  | _ => none

def decoder : Decoder Id :=
  .buffered fun v =>
    match ofValue? v with
    | some id => .ok id
    | none => .error (.noVariant "Id")

theorem ofValue?_toValue (id : Id) : ofValue? id.toValue = some id := by
  cases id <;> rfl

end Id

end DuplexRpc

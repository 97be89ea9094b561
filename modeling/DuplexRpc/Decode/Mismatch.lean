import DuplexRpc.Text.Quoted
import DuplexRpc.Value.Basic

/-!
Why a value does not fit the type it is read as.
-/

namespace DuplexRpc

/-- What was found in place of the expected value. -/
inductive Found where
  | null
  | bool (b : Bool)
  | integer (i : Int)
  | double (x : Double)
  | text (s : String)
  | sequence
  | map
deriving DecidableEq, Repr

def Found.message : Found → String
  | .null => "null"
  | .bool b => s!"boolean `{b}`"
  | .integer i => s!"integer `{i}`"
  | .double x => s!"floating point `{x.render}`"
  | .text s => "string " ++ Text.quoted s
  | .sequence => "sequence"
  | .map => "map"

def Found.ofNumber : Number → Found
  | .int i _ => .integer i
  | .float x _ => .double x

def Found.ofValue : Value → Found
  | .null => .null
  | .bool b => .bool b
  | .num n => .ofNumber n
  | .str s => .text s
  | .arr _ => .sequence
  | .obj _ => .map

/-- Why a value does not fit. -/
inductive Mismatch where
  | invalidType (found : Found) (expected : String)
  | invalidValue (found : Found) (expected : String)
  | invalidLength (length : Nat) (expected : String)
  | missingField (name : String)
  | duplicateField (name : String)
  | unknownVariant (name : String) (variants : List String)
  | noVariant (type : String)
  | refused (reason : String)
deriving DecidableEq, Repr

/-- A name between backticks. -/
def ticked (name : String) : String :=
  "`" ++ name ++ "`"

/-- The wording of a choice between names. -/
def oneOf : List String → String
  | [] => "there are no variants"
  | [a] => "expected " ++ ticked a
  | [a, b] => "expected " ++ ticked a ++ " or " ++ ticked b
  | names => "expected one of " ++ ", ".intercalate (names.map ticked)

def Mismatch.message : Mismatch → String
  | .invalidType found expected => s!"invalid type: {found.message}, expected {expected}"
  | .invalidValue found expected => s!"invalid value: {found.message}, expected {expected}"
  | .invalidLength length expected => s!"invalid length {length}, expected {expected}"
  | .missingField name => "missing field " ++ ticked name
  | .duplicateField name => "duplicate field " ++ ticked name
  | .unknownVariant name variants => "unknown variant " ++ ticked name ++ ", " ++ oneOf variants
  | .noVariant type => s!"data did not match any variant of untagged enum {type}"
  | .refused reason => reason

end DuplexRpc

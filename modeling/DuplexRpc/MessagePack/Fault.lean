import DuplexRpc.Double.Text
import DuplexRpc.Text.Utf8

/-!
What can be wrong with MessagePack bytes.
-/

namespace DuplexRpc.MessagePack

/-- An item that stands where it cannot stand. -/
inductive Item where
  | unit
  | bool (b : Bool)
  | integer (i : Int)
  | float (x : Double)
  | bytes
  | sequence
  | map
  | extension
deriving DecidableEq, Repr

def Item.message : Item → String
  | .unit => "unit value"
  | .bool b => s!"boolean `{b}`"
  | .integer i => s!"integer `{i}`"
  | .float x => s!"floating point `{x.renderPlain}`"
  | .bytes => "byte array"
  | .sequence => "sequence"
  | .map => "map"
  | .extension => "newtype struct"

/-- The faults of MessagePack bytes. -/
inductive Fault where
  | endInMarker
  | endInNumber
  | endInContent
  | reserved
  | notUtf8 (fault : Text.Utf8Fault)
  | tooDeep
  | misplaced (item : Item) (expected : String)
  | nameNotUtf8
deriving DecidableEq, Repr

def Fault.message : Fault → String
  | .endInMarker => "IO error while reading marker: failed to fill whole buffer"
  | .endInNumber => "IO error while reading data: failed to fill whole buffer"
  | .endInContent => "IO error while reading data: unexpected end of file"
  | .reserved => "wrong msgpack marker Reserved"
  | .notUtf8 fault => s!"string found to be invalid utf8: {fault.message}"
  | .tooDeep => "depth limit exceeded"
  | .misplaced item expected => s!"invalid type: {item.message}, expected {expected}"
  | .nameNotUtf8 => "invalid value: byte array, expected a string"

/-- Takes what it reads from the front of the bytes. -/
abbrev Reader (α : Type) :=
  List UInt8 → Except Fault (α × List UInt8)

end DuplexRpc.MessagePack

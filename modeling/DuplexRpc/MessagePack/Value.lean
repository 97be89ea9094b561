import DuplexRpc.MessagePack.Head
import DuplexRpc.Value.Basic

/-!
MessagePack bytes of values. The entries of an object are written in their order. A value is taken
from the front of what is read, and the rest is left alone. At most 1023 arrays and maps may stand
inside each other. The names of a map are texts; of entries with the same name the last one counts.
-/

namespace DuplexRpc.MessagePack

def writeNumber : Number → List UInt8
  | .int i _ => writeInt i
  | .float x _ => writeDouble x

mutual

def write : Value → List UInt8
  | .null => [0xC0]
  | .bool false => [0xC2]
  | .bool true => [0xC3]
  | .num n => writeNumber n
  | .str s => writeText s
  | .arr items => writeArrayHead items.length ++ writeItems items
  | .obj fields => writeMapHead fields.length ++ writeFields fields

def writeItems : List Value → List UInt8
  | [] => []
  | v :: vs => write v ++ writeItems vs

def writeFields : List (String × Value) → List UInt8
  | [] => []
  | (name, v) :: fs => writeText name ++ (write v ++ writeFields fs)

end

open Text

/-- How many arrays and maps may stand inside each other. -/
def maxDepth : Nat :=
  1023

/-- What a value may be, in the wording of a fault. -/
def anyValue : String :=
  "any valid JSON value"

/-- What a name may be, in the wording of a fault. The first name of a map is worded in its own
way. -/
def anyName (first : Bool) : String :=
  if first then "a string key" else "a string"

/-- A fault of an item that would need room for one more level. -/
def misplacedInside {α : Type} (depth : Nat) (item : Item) (expected : String) :
    Except Fault α :=
  if depth = 0 then .error .tooDeep else .error (.misplaced item expected)

/-- Reads the name of an entry. After the first entry bytes may stand for a text. -/
def readName (depth : Nat) (first : Bool) : Reader String := fun bytes =>
  let misplaced (item : Item) : Except Fault (String × List UInt8) :=
    .error (.misplaced item (anyName first))
  match readHead bytes with
  | .error e => .error e
  | .ok (head, rest) =>
    match head with
    | .text s => .ok (s, rest)
    | .bytes content =>
      if first then misplaced .bytes
      else match ofUtf8 content with
        | .ok s => .ok (s, rest)
        | .error _ => .error .nameNotUtf8
    | .null => misplaced .unit
    | .bool b => misplaced (.bool b)
    | .int i => misplaced (.integer i)
    | .float x => misplaced (.float x)
    | .array _ => misplacedInside depth .sequence (anyName first)
    | .map _ => misplacedInside depth .map (anyName first)
    | .extension => misplacedInside depth .extension (anyName first)

def readItems {α : Type} (item : Reader α) : (n : Nat) → Reader (List α)
  | 0, bytes => .ok ([], bytes)
  | n + 1, bytes =>
    match item bytes with
    | .error e => .error e
    | .ok (x, rest) =>
      match readItems item n rest with
      | .error e => .error e
      | .ok (xs, rest) => .ok (x :: xs, rest)

def readEntries {α : Type} (depth : Nat) (item : Reader α) :
    (n : Nat) → (first : Bool) → Reader (List (String × α))
  | 0, _, bytes => .ok ([], bytes)
  | n + 1, first, bytes =>
    match readName depth first bytes with
    | .error e => .error e
    | .ok (name, rest) =>
      match item rest with
      | .error e => .error e
      | .ok (x, rest) =>
        match readEntries depth item n false rest with
        | .error e => .error e
        | .ok (xs, rest) => .ok ((name, x) :: xs, rest)

/-- Reads a value with room for `depth` arrays and maps inside each other. An integer beyond the
wire's range cannot be written in any form, and reads as null. -/
def readValue (depth : Nat) : Reader Value := fun bytes =>
  match readHead bytes with
  | .error e => .error e
  | .ok (head, rest) =>
    match head with
    | .null => .ok (.null, rest)
    | .bool b => .ok (.bool b, rest)
    | .int i => .ok (((Number.ofInt? i).map Value.num).getD .null, rest)
    | .float x => .ok (.ofDouble x, rest)
    | .text s => .ok (.str s, rest)
    | .bytes _ => .error (.misplaced .bytes anyValue)
    | .extension => misplacedInside depth .extension anyValue
    | .array n =>
      match depth with
      | 0 => .error .tooDeep
      | depth + 1 =>
        match readItems (readValue depth) n rest with
        | .error e => .error e
        | .ok (items, rest) => .ok (.arr items, rest)
    | .map n =>
      match depth with
      | 0 => .error .tooDeep
      | depth + 1 =>
        match readEntries depth (readValue depth) n true rest with
        | .error e => .error e
        | .ok (entries, rest) => .ok (.ofFields entries, rest)

/-- Reads the value at the front of the bytes. -/
def parse (bytes : List UInt8) : Except Fault Value :=
  match readValue maxDepth bytes with
  | .error e => .error e
  | .ok (v, _) => .ok v

end DuplexRpc.MessagePack

import DuplexRpc.Json.Reader.Number
import DuplexRpc.Json.Reader.Text
import DuplexRpc.Value.Basic

/-!
Reading values. At most 127 arrays and objects may stand inside each other. Of entries with the same
name the last one counts.
-/

namespace DuplexRpc.Json

/-- How many arrays and objects may stand inside each other. -/
def maxDepth : Nat :=
  127

/-- What follows in a list or an object that is being read. -/
inductive Follow where
  | done
  | more
deriving DecidableEq, Repr

/-- Goes to the next item of a list, or to the bracket that closes it. The bracket stays. -/
def nextItem (first : Bool) : Reader Follow := fun bytes =>
  match skipSpace bytes with
  | [] => faultAt .endInList []
  | b :: rest =>
    if b = ascii ']' then .ok (.done, b :: rest)
    else if first then .ok (.more, b :: rest)
    else if b = ascii ',' then
      match skipSpace rest with
      | [] => faultAt .endInValue []
      | c :: rest =>
        if c = ascii ']' then faultOn .trailingComma (c :: rest) else .ok (.more, c :: rest)
    else faultOn .expectedCommaOrBracket (b :: rest)

/-- Goes to the quote of the next name of an object, or to the brace that closes it. Quote and brace
stay. -/
def nextName (first : Bool) : Reader Follow := fun bytes =>
  match skipSpace bytes with
  | [] => faultAt .endInObject []
  | b :: rest =>
    if b = ascii '\x7d' then .ok (.done, b :: rest)
    else if first then
      if b = ascii '"' then .ok (.more, b :: rest) else faultOn .keyNotString (b :: rest)
    else if b = ascii ',' then
      match skipSpace rest with
      | [] => faultAt .endInValue []
      | c :: rest =>
        if c = ascii '"' then .ok (.more, c :: rest)
        else if c = ascii '\x7d' then faultOn .trailingComma (c :: rest)
        else faultOn .keyNotString (c :: rest)
    else faultOn .expectedCommaOrBrace (b :: rest)

/-- Reads the colon between a name and its value. -/
def readColon : Reader Unit := fun bytes =>
  match skipSpace bytes with
  | [] => faultAt .endInObject []
  | b :: rest => if b = ascii ':' then .ok ((), rest) else faultOn .expectedColon (b :: rest)

/-- Reads the items of a list up to its bracket, which is taken. `fuel` bounds their number. -/
def readItems {α : Type} (item : Reader α) : (fuel : Nat) → (first : Bool) → Reader (List α)
  | 0, _, _ => faultAt .endInList []
  | fuel + 1, first, bytes =>
    match nextItem first bytes with
    | .error e => .error e
    | .ok (.done, rest) => .ok ([], rest.drop 1)
    | .ok (.more, rest) =>
      match item rest with
      | .error e => .error e
      | .ok (x, rest) =>
        match readItems item fuel false rest with
        | .error e => .error e
        | .ok (xs, rest) => .ok (x :: xs, rest)

/-- Reads one entry of an object from the quote of its name on. -/
def readEntry {α : Type} (item : Reader α) : Reader (String × α) := fun bytes =>
  match readString (bytes.drop 1) with
  | .error e => .error e
  | .ok (name, rest) =>
    match readColon rest with
    | .error e => .error e
    | .ok (_, rest) =>
      match item rest with
      | .error e => .error e
      | .ok (x, rest) => .ok ((name, x), rest)

/-- Reads the entries of an object up to its brace, which is taken. `fuel` bounds their number. -/
def readEntries {α : Type} (item : Reader α) :
    (fuel : Nat) → (first : Bool) → Reader (List (String × α))
  | 0, _, _ => faultAt .endInObject []
  | fuel + 1, first, bytes =>
    match nextName first bytes with
    | .error e => .error e
    | .ok (.done, rest) => .ok ([], rest.drop 1)
    | .ok (.more, rest) =>
      match readEntry item rest with
      | .error e => .error e
      | .ok (x, rest) =>
        match readEntries item fuel false rest with
        | .error e => .error e
        | .ok (xs, rest) => .ok (x :: xs, rest)

/-- Gives a fixed value after a word. -/
def readNamed {α : Type} (letters : List Char) (x : α) : Reader α := fun bytes =>
  match readWord (letters.map ascii) bytes with
  | .error e => .error e
  | .ok (_, rest) => .ok (x, rest)

def mapReader {α β : Type} (f : α → β) (read : Reader α) : Reader β := fun bytes =>
  match read bytes with
  | .error e => .error e
  | .ok (x, rest) => .ok (f x, rest)

/-- Reads a value with room for `depth` arrays and objects inside each other. -/
def readValue (depth : Nat) : Reader Value := fun bytes =>
  match skipSpace bytes with
  | [] => faultAt .endInValue []
  | b :: rest =>
    if b = ascii 'n' then readNamed ['u', 'l', 'l'] .null rest
    else if b = ascii 't' then readNamed ['r', 'u', 'e'] (.bool true) rest
    else if b = ascii 'f' then readNamed ['a', 'l', 's', 'e'] (.bool false) rest
    else if b = ascii '-' then mapReader .num (readNumber true) rest
    else if isDigit b then mapReader .num (readNumber false) (b :: rest)
    else if b = ascii '"' then mapReader .str readString rest
    else if b = ascii '[' then
      match depth with
      | 0 => faultOn .tooDeep (b :: rest)
      | depth + 1 => mapReader .arr (readItems (readValue depth) (rest.length + 1) true) rest
    else if b = ascii '\x7b' then
      match depth with
      | 0 => faultOn .tooDeep (b :: rest)
      | depth + 1 =>
        mapReader Value.ofFields (readEntries (readValue depth) (rest.length + 1) true) rest
    else faultOn .expectedValue (b :: rest)

/-- Reads a whole text as one value. -/
def parse (text : List UInt8) : Except SyntaxError Value :=
  match readValue maxDepth text with
  | .error e => .error e
  | .ok (v, rest) =>
    match readEnd rest with
    | .error e => .error e
    | .ok () => .ok v

end DuplexRpc.Json

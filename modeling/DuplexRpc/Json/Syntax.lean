import DuplexRpc.Json.Byte

/-!
What can be wrong with JSON text, and readers. A reader takes the bytes that are left and gives a
value with the bytes left after it, or a fault with the number of bytes that were left when it was
noticed; with the whole text at hand this number tells the line and the column.
-/

namespace DuplexRpc.Json

/-- The faults of JSON text. -/
inductive SyntaxFault where
  | endInValue
  | endInList
  | endInObject
  | endInString
  | expectedValue
  | expectedWord
  | expectedColon
  | expectedCommaOrBracket
  | expectedCommaOrBrace
  | keyNotString
  | trailingComma
  | trailingCharacters
  | invalidNumber
  | numberOutOfRange
  | invalidEscape
  | invalidCodePoint
  | controlCharacter
  | loneSurrogate
  | endOfEscape
  | tooDeep
deriving DecidableEq, Repr

def SyntaxFault.message : SyntaxFault → String
  | .endInValue => "EOF while parsing a value"
  | .endInList => "EOF while parsing a list"
  | .endInObject => "EOF while parsing an object"
  | .endInString => "EOF while parsing a string"
  | .expectedValue => "expected value"
  | .expectedWord => "expected ident"
  | .expectedColon => "expected `:`"
  | .expectedCommaOrBracket => "expected `,` or `]`"
  | .expectedCommaOrBrace => "expected `,` or `\x7d`"
  | .keyNotString => "key must be a string"
  | .trailingComma => "trailing comma"
  | .trailingCharacters => "trailing characters"
  | .invalidNumber => "invalid number"
  | .numberOutOfRange => "number out of range"
  | .invalidEscape => "invalid escape"
  | .invalidCodePoint => "invalid unicode code point"
  | .controlCharacter => "control character (\\u0000-\\u001F) found while parsing a string"
  | .loneSurrogate => "lone leading surrogate in hex escape"
  | .endOfEscape => "unexpected end of hex escape"
  | .tooDeep => "recursion limit exceeded"

/-- A fault, and how many bytes were left when it was noticed. -/
structure SyntaxError where
  fault : SyntaxFault
  left : Nat
deriving DecidableEq, Repr

/-- Takes what it reads from the front of the bytes. -/
abbrev Reader (α : Type) :=
  List UInt8 → Except SyntaxError (α × List UInt8)

def faultAt {α : Type} (f : SyntaxFault) (bytes : List UInt8) : Except SyntaxError α :=
  .error ⟨f, bytes.length⟩

/-- A fault of the next byte, which counts as read. -/
def faultOn {α : Type} (f : SyntaxFault) (bytes : List UInt8) : Except SyntaxError α :=
  .error ⟨f, bytes.length - 1⟩

/-- The bytes after blanks. -/
def skipSpace : List UInt8 → List UInt8
  | [] => []
  | b :: bytes => if isSpace b then skipSpace bytes else b :: bytes

/-- Lines count from 1; a column is the number of bytes of its line that were read. -/
structure Place where
  line : Nat
  column : Nat
deriving DecidableEq, Repr

def Place.after (bytes : List UInt8) : Place :=
  bytes.foldl (fun p b => if b = ascii '\n' then ⟨p.line + 1, 0⟩ else ⟨p.line, p.column + 1⟩) ⟨1, 0⟩

/-- The place in a text at which `left` bytes are left. -/
def Place.ofLeft (text : List UInt8) (left : Nat) : Place :=
  Place.after (text.take (text.length - left))

/-- A place as the end of a message. -/
def Place.suffix (p : Place) : String :=
  s!" at line {p.line} column {p.column}"

/-- The message of a fault in a text. -/
def SyntaxError.message (text : List UInt8) (e : SyntaxError) : String :=
  e.fault.message ++ (Place.ofLeft text e.left).suffix

/-- Reads the rest of a word that its first letter announced. -/
def readWord : List UInt8 → Reader Unit
  | [], bytes => .ok ((), bytes)
  | _ :: _, [] => faultAt .endInValue []
  | letter :: letters, b :: bytes =>
    if b = letter then readWord letters bytes else faultAt .expectedWord bytes

/-- Reads to the end of the text, over blanks alone. -/
def readEnd (bytes : List UInt8) : Except SyntaxError Unit :=
  match skipSpace bytes with
  | [] => .ok ()
  | b :: rest => faultOn .trailingCharacters (b :: rest)

end DuplexRpc.Json

import DuplexRpc.Json.Byte
import DuplexRpc.Text.Utf8
import DuplexRpc.Value.Basic

/-!
JSON text of values, without blanks. The entries of an object are written in their order. Quotes,
backslashes and control characters are escaped, every other character stands as itself.
-/

namespace DuplexRpc.Json

open Text

/-- One byte of a string's UTF-8 form between quotes. -/
def escapeByte (b : UInt8) : List UInt8 :=
  if b = ascii '"' then [ascii '\\', ascii '"']
  else if b = ascii '\\' then [ascii '\\', ascii '\\']
  else if b = 0x08 then [ascii '\\', ascii 'b']
  else if b = 0x0C then [ascii '\\', ascii 'f']
  else if b = 0x0A then [ascii '\\', ascii 'n']
  else if b = 0x0D then [ascii '\\', ascii 'r']
  else if b = 0x09 then [ascii '\\', ascii 't']
  else if b < 0x20 then
    [ascii '\\', ascii 'u', ascii '0', ascii '0', hexDigitByte (b.toNat / 16),
      hexDigitByte (b.toNat % 16)]
  else [b]

def writeString (s : String) : List UInt8 :=
  ascii '"' :: ((utf8 s).flatMap escapeByte ++ [ascii '"'])

/-- A number: an integer by its digits, a binary64 number by its shortest form. -/
def writeNumber : Number → List UInt8
  | .int i _ =>
    if i < 0 then ascii '-' :: decimalBytes i.natAbs else decimalBytes i.natAbs
  | .float x _ => utf8 x.render

mutual

def write : Value → List UInt8
  | .null => [ascii 'n', ascii 'u', ascii 'l', ascii 'l']
  | .bool true => [ascii 't', ascii 'r', ascii 'u', ascii 'e']
  | .bool false => [ascii 'f', ascii 'a', ascii 'l', ascii 's', ascii 'e']
  | .num n => writeNumber n
  | .str s => writeString s
  | .arr [] => [ascii '[', ascii ']']
  | .arr (v :: vs) => ascii '[' :: (write v ++ writeItems vs)
  | .obj [] => [ascii '\x7b', ascii '\x7d']
  | .obj ((name, v) :: fs) =>
    ascii '\x7b' :: (writeString name ++ ascii ':' :: (write v ++ writeEntries fs))

/-- The items after the first one, and the bracket that closes the array. -/
def writeItems : List Value → List UInt8
  | [] => [ascii ']']
  | v :: vs => ascii ',' :: (write v ++ writeItems vs)

/-- The entries after the first one, and the brace that closes the object. -/
def writeEntries : List (String × Value) → List UInt8
  | [] => [ascii '\x7d']
  | (name, v) :: fs =>
    ascii ',' :: (writeString name ++ ascii ':' :: (write v ++ writeEntries fs))

end

/-- The text of a value as a string. -/
def text (v : Value) : String :=
  ofUtf8D (write v)

end DuplexRpc.Json

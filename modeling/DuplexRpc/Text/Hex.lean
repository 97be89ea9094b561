/-!
Bytes written as lower-case hexadecimal digits, and read from them.
-/

namespace DuplexRpc.Text

/-- The digit of a number below sixteen, in lower case. -/
def hexDigit (n : Nat) : Char :=
  if n < 10 then Char.ofNat (48 + n) else Char.ofNat (87 + n)

/-- The value of a hexadecimal digit in either case. -/
def hexValue? (c : Char) : Option Nat :=
  if '0' ≤ c ∧ c ≤ '9' then some (c.toNat - 48)
  else if 'a' ≤ c ∧ c ≤ 'f' then some (c.toNat - 87)
  else if 'A' ≤ c ∧ c ≤ 'F' then some (c.toNat - 55)
  else none

def hexOfBytes (bytes : List UInt8) : String :=
  String.ofList (bytes.flatMap fun b => [hexDigit (b.toNat / 16), hexDigit (b.toNat % 16)])

/-- Reads two digits a byte, in either case. -/
def bytesOfHexChars? : List Char → Option (List UInt8)
  | [] => some []
  | [_] => none
  | high :: low :: rest =>
    match hexValue? high, hexValue? low, bytesOfHexChars? rest with
    | some h, some l, some bytes => some (UInt8.ofNat (h * 16 + l) :: bytes)
    | _, _, _ => none

/-- Reads two digits a byte, in either case. -/
def bytesOfHex? (text : String) : Option (List UInt8) :=
  bytesOfHexChars? text.toList

/-- A number in hexadecimal digits without leading zeros. -/
def hexOfNat (n : Nat) : String :=
  String.ofList (Nat.toDigits 16 n)

end DuplexRpc.Text

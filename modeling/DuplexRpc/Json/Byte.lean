/-!
The bytes that JSON text is made of.
-/

namespace DuplexRpc.Json

def ascii (c : Char) : UInt8 :=
  c.val.toUInt8

/-- Space, tab, line feed and carriage return. -/
def isSpace (b : UInt8) : Bool :=
  b == ascii ' ' || b == ascii '\t' || b == ascii '\n' || b == ascii '\r'

def isDigit (b : UInt8) : Bool :=
  ascii '0' ≤ b && b ≤ ascii '9'

def digitValue (b : UInt8) : Nat :=
  b.toNat - 48

/-- The decimal digit of a number below ten. -/
def digitByte (n : Nat) : UInt8 :=
  UInt8.ofNat (48 + n)

/-- The decimal digits of a number, without leading zeros. -/
def decimalBytes (n : Nat) : List UInt8 :=
  if n < 10 then [digitByte n] else decimalBytes (n / 10) ++ [digitByte (n % 10)]
termination_by n
decreasing_by omega

/-- The value of a hexadecimal digit in either case. -/
def hexDigitValue? (b : UInt8) : Option Nat :=
  if isDigit b then some (b.toNat - 48)
  else if ascii 'a' ≤ b ∧ b ≤ ascii 'f' then some (b.toNat - 87)
  else if ascii 'A' ≤ b ∧ b ≤ ascii 'F' then some (b.toNat - 55)
  else none

/-- The lower-case hexadecimal digit of a number below sixteen. -/
def hexDigitByte (n : Nat) : UInt8 :=
  if n < 10 then UInt8.ofNat (48 + n) else UInt8.ofNat (87 + n)

end DuplexRpc.Json

import DuplexRpc.Json.Syntax
import DuplexRpc.Value.Number

/-!
Reading numbers. A literal without point and exponent that fits an integer of the wire is that
integer; every other literal, and minus zero, is a binary64 number. The digits of a literal are
gathered in 64 bits: further digits before the point only raise the power of ten, and further digits
after it are left out.
-/

namespace DuplexRpc.Json

/-- Takes digits as long as the number they make, after `acc`, stays below 2^64. -/
def takeDigits (acc : Nat) : List UInt8 → Nat × List UInt8
  | [] => (acc, [])
  | b :: bytes =>
    if isDigit b ∧ acc * 10 + digitValue b < 0x10000000000000000 then
      takeDigits (acc * 10 + digitValue b) bytes
    else (acc, b :: bytes)

/-- The bytes after digits. -/
def skipDigits : List UInt8 → List UInt8
  | [] => []
  | b :: bytes => if isDigit b then skipDigits bytes else b :: bytes

def startsWithDigit : List UInt8 → Bool
  | [] => false
  | b :: _ => isDigit b

/-- The next byte is an exponent mark. -/
def startsWithExponent : List UInt8 → Bool
  | [] => false
  | b :: _ => b == ascii 'e' || b == ascii 'E'

/-- A binary64 number from the parts of its literal. -/
def finishDouble (negative : Bool) (significand : Nat) (exponent : Int) : Reader Number :=
  fun bytes =>
    match (Double.ofDecimal negative significand exponent).bind Number.ofDouble? with
    | some n => .ok (n, bytes)
    | none => faultAt .numberOutOfRange bytes

/-- The greatest exponent that is kept exactly. -/
def exponentLimit : Nat :=
  0x7FFFFFFF

/-- Takes the digits of an exponent as long as they stay within the limit. The flag says that a
digit took it beyond; that digit is taken too. -/
def takeExponent (acc : Nat) : List UInt8 → Nat × Bool × List UInt8
  | [] => (acc, false, [])
  | b :: bytes =>
    if isDigit b then
      if acc * 10 + digitValue b ≤ exponentLimit then takeExponent (acc * 10 + digitValue b) bytes
      else (acc, true, bytes)
    else (acc, false, b :: bytes)

/-- A sum of exponents, kept within 32 bits. -/
def clampExponent (e : Int) : Int :=
  max (-0x80000000) (min 0x7FFFFFFF e)

/-- Reads the exponent after its mark. An exponent beyond the limit makes the number zero, or too
large where it is positive and the significand is not zero. -/
def readExponent (negative : Bool) (significand : Nat) (exponent : Int) : Reader Number :=
  fun bytes =>
    let (raises, bytes) :=
      match bytes with
      | [] => (true, bytes)
      | b :: rest =>
        if b = ascii '+' then (true, rest)
        else if b = ascii '-' then (false, rest)
        else (true, bytes)
    match bytes with
    | [] => faultAt .endInValue []
    | b :: rest =>
      if isDigit b then
        match takeExponent (digitValue b) rest with
        | (e, false, rest) =>
          let e : Int := if raises then exponent + e else exponent - e
          finishDouble negative significand (clampExponent e) rest
        | (_, true, rest) =>
          if significand ≠ 0 ∧ raises = true then faultAt .numberOutOfRange rest
          else finishDouble negative 0 0 (skipDigits rest)
      else faultAt .invalidNumber rest

/-- Reads the exponent, if one follows. -/
def readExponentIfAny (negative : Bool) (significand : Nat) (exponent : Int) : Reader Number :=
  fun bytes =>
    if startsWithExponent bytes then readExponent negative significand exponent (bytes.drop 1)
    else finishDouble negative significand exponent bytes

def readFraction (negative : Bool) (significand : Nat) (exponent : Int) : Reader Number :=
  fun bytes =>
    let (s, rest) := takeDigits significand bytes
    let places := bytes.length - rest.length
    if startsWithDigit rest then
      readExponentIfAny negative s (exponent - places) (skipDigits rest)
    else if places = 0 then
      if rest.isEmpty then faultAt .endInValue [] else faultOn .invalidNumber rest
    else readExponentIfAny negative s (exponent - places) rest

/-- Reads what follows the digits before the point, of which `exponent` were left out. -/
def readAfterDigits (negative : Bool) (significand : Nat) (exponent : Int) : Reader Number :=
  fun bytes =>
    match bytes with
    | [] => finishDouble negative significand exponent []
    | b :: rest =>
      if b = ascii '.' then readFraction negative significand exponent rest
      else readExponentIfAny negative significand exponent bytes

/-- An integer literal: an integer of the wire, or the nearest binary64 number. -/
def integerLiteral (negative : Bool) (significand : Nat) : Option Number :=
  if negative then
    if significand = 0 then Number.ofDouble? (Double.withSign true 0)
    else match Number.ofInt? (-(significand : Int)) with
      | some n => some n
      | none => Number.ofDouble? (Double.ofNat significand).neg
  else Number.ofInt? significand

/-- Ends a literal whose digits before the point were all taken. -/
def readShortLiteral (negative : Bool) (significand : Nat) : Reader Number :=
  fun bytes =>
    match bytes with
    | [] => finish bytes
    | b :: rest =>
      if b = ascii '.' then readFraction negative significand 0 rest
      else if b = ascii 'e' ∨ b = ascii 'E' then readExponent negative significand 0 rest
      else finish bytes
where
  finish (bytes : List UInt8) : Except SyntaxError (Number × List UInt8) :=
    match integerLiteral negative significand with
    | some n => .ok (n, bytes)
    | none => faultAt .numberOutOfRange bytes

/-- Reads a number, its sign apart. -/
def readNumber (negative : Bool) : Reader Number := fun bytes =>
  match bytes with
  | [] => faultAt .endInValue []
  | b :: rest =>
    if b = ascii '0' then
      if startsWithDigit rest then faultOn .invalidNumber rest
      else readShortLiteral negative 0 rest
    else if isDigit b then
      let (s, rest') := takeDigits (digitValue b) rest
      if startsWithDigit rest' then
        let rest'' := skipDigits rest'
        readAfterDigits negative s (rest'.length - rest''.length : Nat) rest''
      else readShortLiteral negative s rest'
    else faultAt .invalidNumber rest

end DuplexRpc.Json

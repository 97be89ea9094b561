/-!
Binary64 numbers as their 64 bits: the fields, the exact value of a finite number, and rounding of a
quotient to the nearest number, a tie to the even one. Products and quotients are computed exactly
and rounded once.
-/

namespace DuplexRpc

/-- A binary64 number, given by its bits. -/
structure Double where
  bits : UInt64
deriving DecidableEq, Repr, Inhabited

namespace Double

/-- The bits of minus zero: the sign alone. -/
def signBit : Nat :=
  0x8000000000000000

/-- The least significand of a number that is not too small for one with all its bits. -/
def leastNormal : Nat :=
  0x10000000000000

/-- A power of ten. -/
def tenTo (n : Nat) : Nat :=
  Nat.pow 10 n

/-- The sign bit is set. -/
def isNegative (x : Double) : Bool :=
  signBit ≤ x.bits.toNat

def exponentField (x : Double) : Nat :=
  x.bits.toNat / leastNormal % 2048

/-- The 52 bits of the fraction. -/
def fraction (x : Double) : Nat :=
  x.bits.toNat % leastNormal

def isFinite (x : Double) : Bool :=
  x.exponentField != 2047

/-- Zero of either sign. -/
def isZero (x : Double) : Bool :=
  x.bits.toNat % signBit == 0

/-- A finite number is its sign times `significand * 2 ^ scale`. -/
def significand (x : Double) : Nat :=
  if x.exponentField = 0 then x.fraction else leastNormal + x.fraction

/-- The power of two that goes with `significand`. -/
def scale (x : Double) : Int :=
  if x.exponentField = 0 then -1074 else (x.exponentField : Int) - 1075

/-- Equal as numbers: the same bits, or two zeros. Finite numbers only. -/
def same (x y : Double) : Bool :=
  x == y || (x.isZero && y.isZero)

/-- The sign bit put onto the bits of a magnitude. -/
def withSign (negative : Bool) (magnitude : Nat) : Double :=
  ⟨UInt64.ofNat (if negative then signBit + magnitude else magnitude)⟩

/-- The bits of positive infinity. -/
def infinityBits : Nat :=
  0x7FF0000000000000

/-- `num / den` rounded to an integer, a tie to the even one. -/
def divRoundEven (num den : Nat) : Nat :=
  let q := num / den
  let r := num % den
  if 2 * r < den then q else if den < 2 * r then q + 1 else q + q % 2

/-- The floor of the binary logarithm of `num / den`, both positive. -/
def log2Ratio (num den : Nat) : Int :=
  let e : Int := (num.log2 : Int) - (den.log2 : Int)
  let below := if 0 ≤ e then num < den <<< e.toNat else num <<< (-e).toNat < den
  if below then e - 1 else e

/-- The number nearest to `num / den` of the given sign, infinite where it is too large. -/
def ofRatio (negative : Bool) (num den : Nat) : Double :=
  if num = 0 then withSign negative 0
  else
    let q : Int := max (log2Ratio num den - 52) (-1074)
    let n :=
      if 0 ≤ q then divRoundEven num (den <<< q.toNat)
      else divRoundEven (num <<< (-q).toNat) den
    withSign negative (min infinityBits ((q + 1074).toNat * leastNormal + n))

/-- The number nearest to `m * 2 ^ q`. -/
def ofScaled (negative : Bool) (m : Nat) (q : Int) : Double :=
  if 0 ≤ q then ofRatio negative (m <<< q.toNat) 1 else ofRatio negative m (1 <<< (-q).toNat)

/-- The number nearest to a natural number. -/
def ofNat (n : Nat) : Double :=
  ofRatio false n 1

def ofInt (i : Int) : Double :=
  ofRatio (i < 0) i.natAbs 1

def neg (x : Double) : Double :=
  withSign (!x.isNegative) (x.bits.toNat % signBit)

def mul (x y : Double) : Double :=
  ofScaled (x.isNegative != y.isNegative) (x.significand * y.significand) (x.scale + y.scale)

/-- The quotient of a finite number by a finite number that is not zero. -/
def div (x y : Double) : Double :=
  let negative := x.isNegative != y.isNegative
  let q := x.scale - y.scale
  if 0 ≤ q then ofRatio negative (x.significand <<< q.toNat) y.significand
  else ofRatio negative x.significand (y.significand <<< (-q).toNat)

/-- The binary64 number of a binary32 number, given by its bits. An infinity stays one, and so does
a NaN. -/
def ofBinary32 (bits : Nat) : Double :=
  let field : Nat := bits / 0x800000 % 256
  let fraction : Nat := bits % 0x800000
  let negative := decide (0x80000000 ≤ bits)
  if field = 255 then withSign negative (infinityBits + fraction <<< 29)
  else if field = 0 then ofScaled negative fraction (-149)
  else ofScaled negative (0x800000 + fraction) ((field : Int) - 150)

/-- The number of a decimal literal with the significand `s` and the power of ten `e`. It is the
nearest number to `s`, times or divided by the nearest number to the power of ten, so it is rounded
up to three times. None where the result would be infinite. Powers beyond 308 are divided out in
steps, which ends early at zero. -/
def ofDecimal (negative : Bool) (s : Nat) (e : Int) : Option Double :=
  let x := go (ofNat s) e
  x.map fun x => if negative then neg x else x
where
  go (x : Double) (e : Int) : Option Double :=
    if 308 < e then if x.isZero then some x else none
    else if 0 ≤ e then
      let y := mul x (ofNat (tenTo e.toNat))
      if y.isFinite then some y else none
    else if -308 ≤ e then some (div x (ofNat (tenTo (-e).toNat)))
    else if x.isZero then some x
    else go (div x (ofNat (tenTo 308))) (e + 308)
  termination_by (-e).toNat
  decreasing_by omega

end Double

end DuplexRpc

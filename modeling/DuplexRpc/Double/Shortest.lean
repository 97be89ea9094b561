import DuplexRpc.Double.Basic

/-!
The shortest decimal digits that read back as a given binary64 number. Of the shortest digit
strings the one nearest to the number is taken, of two equally near ones the even one.
-/

namespace DuplexRpc.Double

/-- A positive decimal number `digits * 10 ^ exponent`. -/
structure Decimal where
  digits : Nat
  exponent : Int
deriving DecidableEq, Repr

/-- Whether `a * 2 ^ p < b * 10 ^ k`. -/
def lessThanDecimal (a : Nat) (p : Int) (b : Nat) (k : Int) : Bool :=
  (a * tenTo (-k).toNat) <<< p.toNat < (b * tenTo k.toNat) <<< (-p).toNat

/-- Whether `b * 10 ^ k < a * 2 ^ p`. -/
def decimalLessThan (b : Nat) (k : Int) (a : Nat) (p : Int) : Bool :=
  (b * tenTo k.toNat) <<< (-p).toNat < (a * tenTo (-k).toNat) <<< p.toNat

/-- The lower end of the numbers that round to `m * 2 ^ q`, as a multiple of `2 ^ (q - 2)`. Below a
power of two the neighbour is half as far. -/
def lowerEnd (m : Nat) (q : Int) : Nat :=
  if m = leastNormal ∧ -1074 < q then 4 * m - 1 else 4 * m - 2

/-- The upper end of the numbers that round to `m * 2 ^ q`, as a multiple of `2 ^ (q - 2)`. -/
def upperEnd (m : Nat) : Nat :=
  4 * m + 2

/-- A decimal rounds to `m * 2 ^ q`: it lies between the ends, which count where `m` is even. -/
def roundsTo (m : Nat) (q : Int) (d : Nat) (k : Int) : Bool :=
  if m % 2 = 0 then
    !decimalLessThan d k (lowerEnd m q) (q - 2) && !lessThanDecimal (upperEnd m) (q - 2) d k
  else
    lessThanDecimal (lowerEnd m q) (q - 2) d k && decimalLessThan d k (upperEnd m) (q - 2)

/-- The floor of `m * 2 ^ q / 10 ^ k`. -/
def floorOnGrid (m : Nat) (q k : Int) : Nat :=
  (m * tenTo (-k).toNat) <<< q.toNat / tenTo k.toNat <<< (-q).toNat

/-- The point of the grid of `10 ^ k` that is nearest to `m * 2 ^ q` among its two neighbours that
round to it. -/
def nearestOnGrid (m : Nat) (q k : Int) : Option Nat :=
  let low := floorOnGrid m q k
  let high := low + 1
  match roundsTo m q low k, roundsTo m q high k with
  | true, true =>
    if lessThanDecimal (2 * m) q (low + high) k then some low
    else if decimalLessThan (low + high) k (2 * m) q then some high
    else some (if low % 2 = 0 then low else high)
  | true, false => some low
  | false, true => some high
  | false, false => none

/-- The power of ten of the leading digit of `m * 2 ^ q`, `m` positive. -/
def leadingPower (m : Nat) (q : Int) : Int :=
  let guess := (((m.log2 : Int) + q) * 30103) / 100000 - 1
  let guess := if lessThanDecimal m q 1 (guess + 1) then guess else guess + 1
  if lessThanDecimal m q 1 (guess + 1) then guess else guess + 1

def Decimal.trim (d : Decimal) : Nat → Decimal
  | 0 => d
  | n + 1 =>
    if d.digits ≠ 0 ∧ d.digits % 10 = 0 then
      Decimal.trim ⟨d.digits / 10, d.exponent + 1⟩ n
    else d

/-- The shortest decimal that reads back as a finite number that is not zero, its sign apart. Grids
of one digit up to seventeen are tried. -/
def shortest (x : Double) : Decimal :=
  let m := x.significand
  let q := x.scale
  let top := leadingPower m q
  let rec search (digits : Nat) : Nat → Decimal
    | 0 => ⟨floorOnGrid m q (top - 16), top - 16⟩
    | fuel + 1 =>
      let k := top - (digits : Int) + 1
      match nearestOnGrid m q k with
      | some d => ⟨d, k⟩
      | none => search (digits + 1) fuel
  (search 1 17).trim 20

end DuplexRpc.Double

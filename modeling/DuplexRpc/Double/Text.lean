import DuplexRpc.Double.Shortest

/-!
The written form of a binary64 number: positional where the leading digit stands between 10^-5 and
10^15, else with one leading digit and a signed exponent.
-/

namespace DuplexRpc.Double

/-- What the written form of numbers leaves open: which powers of ten of the leading digit are
written positionally. -/
structure Layout where
  least : Int
  most : Int

/-- Numbers are written positionally from 0.00001 up to sixteen digits before the point. -/
def wireLayout : Layout :=
  ⟨-5, 15⟩

def zeros (n : Nat) : String :=
  String.ofList (List.replicate n '0')

/-- A decimal written positionally, with at least one digit on each side of the point. -/
def positional (digits : String) (exponent : Int) : String :=
  if 0 ≤ exponent then digits ++ zeros exponent.toNat ++ ".0"
  else
    let places := (-exponent).toNat
    let cs := digits.toList
    if places < cs.length then
      let whole := cs.length - places
      String.ofList (cs.take whole) ++ "." ++ String.ofList (cs.drop whole)
    else "0." ++ zeros (places - cs.length) ++ digits

/-- A decimal written with one digit before the point, which is left out where no digit follows,
and an exponent that always has its sign. -/
def scientific (digits : String) (power : Int) : String :=
  let cs := digits.toList
  let rest := cs.drop 1
  let mantissa :=
    if rest.isEmpty then String.ofList (cs.take 1)
    else String.ofList (cs.take 1) ++ "." ++ String.ofList rest
  let sign := if power < 0 then "-" else "+"
  mantissa ++ "e" ++ sign ++ toString power.natAbs

/-- The written form of a finite number. -/
def render (x : Double) : String :=
  let sign := if x.isNegative then "-" else ""
  if x.isZero then sign ++ "0.0"
  else
    let d := x.shortest
    let digits := toString d.digits
    let power := d.exponent + digits.length - 1
    if wireLayout.least ≤ power ∧ power ≤ wireLayout.most then
      sign ++ positional digits d.exponent
    else sign ++ scientific digits power

/-- The positional form of any number, however long; the words for what is not finite. -/
def renderPlain (x : Double) : String :=
  let sign := if x.isNegative then "-" else ""
  if x.isFinite then
    if x.isZero then sign ++ "0.0"
    else
      let d := x.shortest
      sign ++ positional (toString d.digits) d.exponent
  else if x.fraction = 0 then sign ++ "inf"
  else "NaN"

end DuplexRpc.Double

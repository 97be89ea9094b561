import DuplexRpc.Declaration.Lexeme.Word

/-!
Numbers in the text of a declaration: where one that stands at the front ends. A number is an
integer in one of four bases, or it has a point or an exponent. A word may follow as its suffix.
-/

namespace DuplexRpc.Declaration.Lexeme

/-- The number of a digit in any base up to sixteen. -/
def digit? (c : Char) : Option Nat :=
  if c.isDigit then some (c.toNat - '0'.toNat)
  else if 'a' ≤ c ∧ c ≤ 'f' then some (c.toNat - 'a'.toNat + 10)
  else if 'A' ≤ c ∧ c ≤ 'F' then some (c.toNat - 'A'.toNat + 10)
  else none

/-- The point is that of a range or of a field: another point or a word follows it. -/
def pointsAway : List Char → Bool
  | c :: _ => c == '.' || Text.isIdentifierStart c
  | [] => false

/-- The rest after digits and at most one point, and whether there was a point, none where the
point belongs to something else. -/
def afterMantissa : (dotted : Bool) → List Char → Option (Bool × List Char)
  | dotted, '.' :: rest =>
    if dotted then some (dotted, '.' :: rest)
    else if pointsAway rest then none
    else afterMantissa true rest
  | dotted, c :: rest =>
    if c.isDigit || c == '_' then afterMantissa dotted rest else some (dotted, c :: rest)
  | dotted, [] => some (dotted, [])

/-- The rest after an exponent, which may have a sign and has a digit. -/
def afterExponent : (signed seen : Bool) → List Char → Option (List Char)
  | signed, seen, c :: rest =>
    if c = '+' ∨ c = '-' then
      if seen then some (c :: rest)
      else if signed then none
      else afterExponent true seen rest
    else if c.isDigit then afterExponent signed true rest
    else if c = '_' then afterExponent signed seen rest
    else if seen then some (c :: rest)
    else none
  | _, seen, [] => if seen then some [] else none

/-- The rest after the digits of a number with a point or an exponent. -/
def afterFraction? : List Char → Option (List Char)
  | c :: cs =>
    if c.isDigit then
      match afterMantissa false cs with
      | none => none
      | some (dotted, rest) =>
        let whole := if dotted then some rest else none
        match rest with
        | e :: more =>
          if e = 'e' ∨ e = 'E' then (afterExponent false false more).or whole else whole
        | [] => whole
    else none
  | [] => none

/-- The rest after the digits of an integer in a base. A digit that is too large for the base ends
it if it is a letter. -/
def afterDigits (base : Nat) : (seen : Bool) → List Char → Option (List Char)
  | seen, [] => if seen then some [] else none
  | seen, c :: rest =>
    if c = '_' then
      if !seen && base = 10 then none else afterDigits base seen rest
    else
      match digit? c with
      | some d =>
        if d < base then afterDigits base true rest
        else if c.isDigit then none
        else if seen then some (c :: rest)
        else none
      | none => if seen then some (c :: rest) else none

/-- The rest after the digits of an integer. -/
def afterInteger? : List Char → Option (List Char)
  | '0' :: 'x' :: rest => afterDigits 16 false rest
  | '0' :: 'o' :: rest => afterDigits 8 false rest
  | '0' :: 'b' :: rest => afterDigits 2 false rest
  | rest => afterDigits 10 false rest

/-- The rest after a suffix, none where the number runs into something that is none. -/
def atWordBreak (cs : List Char) : Option (List Char) :=
  let rest := afterSuffix cs
  match rest with
  | c :: _ => if Text.isIdentifierContinue c then none else some rest
  | [] => some rest

def afterNumber? (cs : List Char) : Option (List Char) :=
  ((afterFraction? cs).bind atWordBreak).or ((afterInteger? cs).bind atWordBreak)

end DuplexRpc.Declaration.Lexeme

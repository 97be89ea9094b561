import DuplexRpc.Declaration.Lexeme.Number
import DuplexRpc.Declaration.Token

/-!
The values of literals: the text that a string literal stands for, and the number that an integer
literal stands for, which may be written in four bases, with separators and with a suffix.
-/

namespace DuplexRpc.Declaration.Literal

open Lexeme (digit?)

/-- The number of digits in base sixteen. -/
def hexValue (digits : List Char) : Nat :=
  (digits.filterMap digit?).foldl (fun n d => 16 * n + d) 0

/-- The characters that a character after a backslash stands for, save for those with digits. -/
def escaped? : Char → Option Char
  | 'n' => some '\n'
  | 'r' => some '\r'
  | 't' => some '\t'
  | '0' => some '\x00'
  | '\\' => some '\\'
  | '\x27' => some '\x27'
  | '"' => some '"'
  | _ => none

/-- A character that an escaped line end skips. -/
def isLineBlank (c : Char) : Bool :=
  c == ' ' || c == '\t' || c == '\n' || c == '\r'

/-- The text up to the quote that ends it. An escaped line end skips the blanks after it. -/
def unescape : (rounds : Nat) → List Char → List Char
  | 0, _ => []
  | _, [] => []
  | _, '"' :: _ => []
  | rounds + 1, '\\' :: 'x' :: a :: b :: rest =>
    Char.ofNat (hexValue [a, b]) :: unescape rounds rest
  | rounds + 1, '\\' :: 'u' :: '\x7b' :: rest =>
    let digits := rest.takeWhile (· != '\x7d')
    Char.ofNat (hexValue digits) :: unescape rounds (rest.drop (digits.length + 1))
  | rounds + 1, '\\' :: c :: rest =>
    if isLineBlank c then unescape rounds (rest.dropWhile isLineBlank)
    else (escaped? c).getD c :: unescape rounds rest
  | rounds + 1, '\r' :: '\n' :: rest => '\n' :: unescape rounds rest
  | rounds + 1, c :: rest => c :: unescape rounds rest

/-- The text up to the last quote: no suffix of a literal holds one. -/
def upToLastQuote (cs : List Char) : List Char :=
  ((cs.reverse.dropWhile (· != '"')).drop 1).reverse

/-- The text of a string literal, none where the literal is of another kind. -/
def string? (literal : String) : Option String :=
  match literal.toList with
  | '"' :: rest => some (String.ofList (unescape rest.length rest))
  | 'r' :: rest =>
    let hashes := (rest.takeWhile (· == '#')).length
    some (String.ofList (upToLastQuote (rest.drop (hashes + 1))))
  | _ => none

def isNumber (literal : String) : Bool :=
  match literal.toList with
  | c :: _ => c.isDigit
  | [] => false

/-- The base that the digits of a number are written in, and the digits. -/
def baseOf : List Char → Nat × List Char
  | '0' :: 'x' :: rest => (16, rest)
  | '0' :: 'o' :: rest => (8, rest)
  | '0' :: 'b' :: rest => (2, rest)
  | rest => (10, rest)

/-- The characters after the letter of an exponent make one, rather than a suffix. -/
def isExponent (seen : Bool) : List Char → Bool
  | [] => seen
  | '_' :: rest => isExponent seen rest
  | '-' :: _ | '+' :: _ => true
  | c :: rest => if c.isDigit then isExponent true rest else seen

/-- The number of the digits at the front and the suffix after them, none where they are no digits
of the base or a fraction follows. -/
def digits? (base : Nat) : (seen : Bool) → (value : Nat) → List Char → Option (Nat × List Char)
  | seen, value, [] => if seen then some (value, []) else none
  | seen, value, '_' :: rest => digits? base seen value rest
  | seen, value, c :: rest =>
    match (digit? c).filter fun d => d < 10 || 10 < base with
    | some d => if d < base then digits? base true (base * value + d) rest else none
    | none =>
      if c = '.' then none
      else if base = 10 ∧ (c = 'e' ∨ c = 'E') ∧ isExponent false rest then none
      else if seen then some (value, c :: rest)
      else none

/-- The number of an integer literal and whether it has a suffix, none where the literal is of
another kind. -/
def integer? (literal : String) : Option (Nat × Bool) :=
  if isNumber literal then
    let (base, digits) := baseOf literal.toList
    (digits? base false 0 digits).map fun (n, suffix) => (n, !suffix.isEmpty)
  else none

end DuplexRpc.Declaration.Literal

import DuplexRpc.Declaration.Reader
import DuplexRpc.Declaration.TypeExpr

/-!
The grammar of declarations as a set of readers. Types, patterns, expressions and items hold one
another, so the readers of each kind are given those of all kinds for what they hold. What a service
does not ask about is read all the same: it decides whether the declaration is well formed.
-/

namespace DuplexRpc.Declaration

/-- A bound of a type. -/
inductive Bound where
  | trait
  | lifetime
  /-- A list of what a type captures. -/
  | capture
  /-- A trait that holds in constants, or in constants if its context does. -/
  | constant
deriving DecidableEq, Repr

inductive Pattern where
  | name (s : String)
  | wild
  /-- A range without a start or without an end. -/
  | openRange
  | other
deriving DecidableEq, Repr

/-- An expression, as far as the grammar asks about it. -/
inductive Expression where
  /-- An expression that ends with a block, so that it can stand as a statement without a
  semicolon. -/
  | block
  /-- Something that is expanded, and whether it ends with a brace. -/
  | expanded (braced : Bool)
  | range
  | comparison
  | other
deriving DecidableEq, Repr

/-- How strongly the operators of an expression bind, from the weakest on. -/
inductive Precedence where
  | jump
  | assign
  | range
  | or
  | and
  | binding
  | compare
  | bitOr
  | bitXor
  | bitAnd
  | shift
  | sum
  | product
  | conversion
deriving DecidableEq, Repr

/-- The place of a precedence in the order. -/
def Precedence.rank : Precedence → Nat
  | .jump => 0
  | .assign => 1
  | .range => 2
  | .or => 3
  | .and => 4
  | .binding => 5
  | .compare => 6
  | .bitOr => 7
  | .bitXor => 8
  | .bitAnd => 9
  | .shift => 10
  | .sum => 11
  | .product => 12
  | .conversion => 13

/-- The readers of all kinds of things that hold one another. -/
structure Grammar where
  /-- A type, which may be a sum of bounds if `plus` holds. -/
  type : (plus : Bool) → Reader TypeExpr
  /-- A bound, which may be a list of captures, and may hold in constants. -/
  bound : (captures constants : Bool) → Reader Bound
  pattern : Reader Pattern
  /-- An expression without operators between its parts. A path may start a structure if `structs`
  holds. -/
  operand : (structs : Bool) → Reader Expression
  /-- The operators after an operand that bind as strongly at least, and what follows them. -/
  operations : (structs : Bool) → Precedence → Expression → Reader Expression
  /-- An expression in the place of a statement, which a block that it starts with can end. -/
  leading : Reader Expression
  /-- What a block holds. -/
  statements : Reader Unit
  /-- An item after its attributes. -/
  item : Reader Unit
  /-- What an import lists. It may start at the root if `root` holds. -/
  imported : (root : Bool) → Reader Unit

namespace Grammar

def expression (g : Grammar) (structs : Bool) : Reader Expression := do
  g.operations structs .jump (← g.operand structs)

def empty : Grammar where
  type _ := Reader.wantedOneOf []
  bound _ _ := Reader.wantedOneOf []
  pattern := Reader.wantedOneOf []
  operand _ := Reader.wantedOneOf []
  operations _ _ _ := Reader.wantedOneOf []
  leading := Reader.wantedOneOf []
  statements := Reader.wantedOneOf []
  item := Reader.wantedOneOf []
  imported _ := Reader.wantedOneOf []

end Grammar

end DuplexRpc.Declaration

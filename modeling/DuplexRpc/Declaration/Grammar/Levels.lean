import DuplexRpc.Declaration.Item

/-!
The grammar of declarations, tied to itself: the readers of one level are given those of the level
below for what they hold. Every few levels take a token, so the number of tokens bounds the levels
that a reading can reach.
-/

namespace DuplexRpc.Declaration

namespace Grammar

/-- The grammar whose things hold those of the given one. -/
def next (g : Grammar) : Grammar where
  type := g.readType
  bound := g.readBound
  pattern := g.readPattern
  operand := g.readOperand
  operations := g.readOperations
  leading := g.readLeading
  statements := g.readStatements
  item := g.readItem
  imported := g.readImported

/-- The grammar of things up to a level. -/
def upTo : (levels : Nat) → Grammar
  | 0 => empty
  | levels + 1 => (upTo levels).next

/-- The grammar of whatever so many tokens can hold. -/
def forTokens (ts : List Token) : Grammar :=
  upTo (8 * Token.sizes ts + 8)

end Grammar

/-- A trait, read as a whole. -/
def readTrait (ts : List Token) : Reading TraitDecl :=
  Reader.run (Grammar.forTokens ts).trait ts

end DuplexRpc.Declaration

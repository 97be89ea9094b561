import DuplexRpc.Declaration.Grammar

/-!
Attributes: a name with a group, with a value, or alone. An outer one stands before what it belongs
to, an inner one, with an exclamation mark, at the start of it.
-/

namespace DuplexRpc.Declaration

/-- What follows the name of an attribute. -/
inductive AttributeValue where
  | nothing
  | group (inside : List Token)
  | value

structure Attribute where
  name : String
  value : AttributeValue
  isInner : Bool

namespace Grammar

open Reader

/-- The value of an attribute: a literal, or else any expression. -/
def attributeValue (g : Grammar) : Reader Unit := do
  sign "="
  let ts ← ahead
  let n := literalSize ts
  if 0 < n ∧ ts.length = n then takeMany n
  else if atSign "#" ts && atGroup .bracket (ts.drop 1) then refuse .nestedAttribute
  else
    let _ ← g.expression true

/-- What stands between the brackets of an attribute. -/
def attributeContent (g : Grammar) (isInner : Bool) : Reader Attribute := do
  let name ←
    if ← skipWord "unsafe" then pure "unsafe" else plainPath
  match ← ahead with
  | .group _ inside :: _ => do
    take
    pure { name, value := .group inside, isInner }
  | ts => do
    if atSign "=" ts then
      g.attributeValue
      pure { name, value := .value, isInner }
    else pure { name, value := .nothing, isInner }

/-- The attributes before what they belong to. -/
def outerAttributes (g : Grammar) : Reader (List Attribute) :=
  manyWhile (atSign "#") do
    sign "#"
    within .bracket (g.attributeContent false)

/-- The attributes at the start of what they belong to. -/
def innerAttributes (g : Grammar) : Reader (List Attribute) :=
  manyWhile (fun ts => atSign "#" ts && atSign "!" (ts.drop 1)) do
    sign "#"
    sign "!"
    within .bracket (g.attributeContent true)

def block (g : Grammar) : Reader Unit :=
  within .brace g.statements

/-- A block that may start with attributes of what it belongs to. -/
def attributedBlock (g : Grammar) : Reader Unit :=
  within .brace do
    let _ ← g.innerAttributes
    g.statements

end Grammar

end DuplexRpc.Declaration

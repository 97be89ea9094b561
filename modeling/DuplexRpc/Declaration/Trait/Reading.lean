import DuplexRpc.Declaration.Trait.Signature

/-!
Reading traits: what a trait builds on, and its items. Only methods are kept; any other item is read
and then counts as one that is no method.
-/

namespace DuplexRpc.Declaration

namespace TraitItem

/-- What an item can start with. One with who may see it, or with a mark of a default, is no call of
something that is expanded. -/
def starts (isPlain : Bool) : List String :=
  ["`fn`", "`const`", "`type`"] ++
    if isPlain then ["identifier", "`self`", "`super`", "`crate`", "`::`"] else []

/-- What can follow the keyword of constants. -/
def afterConst : List String :=
  ["identifier", "`_`", "`async`", "`unsafe`", "`extern`", "`fn`"]

/-- A call of something that is expanded starts here. -/
def atExpanded (ts : List Token) : Bool :=
  atIdent ts || atWordOf ["self", "super", "crate"] ts || atSign "::" ts

end TraitItem

namespace Grammar

open Reader

/-- A method and its attributes, of which some may stand at the start of its body. -/
def method (g : Grammar) (attributes : List Attribute) : Reader TraitMethod := do
  let signature ← g.signature false
  let ts ← ahead
  if atGroup .brace ts then
    let inner ← within .brace do
      let inner ← g.innerAttributes
      g.statements
      pure inner
    pure { attributes := attributes ++ inner, signature, hasBody := true }
  else if atSign ";" ts then
    take
    pure { attributes, signature, hasBody := false }
  else wantedOneOf ["curly braces", "`;`"]

/-- The name of a constant, which may be left open. -/
def constantName : Reader Unit := do
  let ts ← ahead
  if atIdent ts || atWord "_" ts then take else wantedOneOf ["identifier", "`_`"]

/-- A constant, with its value if it has one. -/
def constantItem (g : Grammar) : Reader Unit := do
  word "const"
  constantName
  let _ ← g.parameters
  sign ":"
  let _ ← g.type true
  if ← skipSign "=" then
    let _ ← g.expression true
  let _ ← g.conditions
  sign ";"

/-- A type with a name, with its bounds and what it stands for. Conditions stand before or after
what it stands for. -/
def typeItem (g : Grammar) (conditionsFirst : Bool) : Reader Unit := do
  word "type"
  let _ ← ident
  let _ ← g.parameters
  if ← skipSign ":" then
    g.boundsUpTo fun ts => atWord "where" ts || atSignOf ["=", ";"] ts
  if conditionsFirst then
    let _ ← g.conditions
  if ← skipSign "=" then
    let _ ← g.type true
  if !conditionsFirst then
    let _ ← g.conditions
  sign ";"

/-- A call of something that is expanded, which a semicolon ends unless braces do. -/
def expandedItem : Reader Unit := do
  let _ ← plainPath
  sign "!"
  if (← anyGroup) != .brace then sign ";"

def traitItem (g : Grammar) : Reader TraitItem := do
  let attributes ← g.outerAttributes
  let isVisible ← visibility
  let isDefault ← skipWord "default"
  let isPlain := !isVisible && !isDefault
  let ts ← ahead
  let method : Reader TraitItem := do
    let m ← g.method attributes
    pure (if isPlain then .method m else .other)
  if atSignature false ts then method
  else if atWord "const" ts then
    let second := ts.drop 1
    if atIdent second || atWord "_" second then
      g.constantItem
      pure .other
    else if atWordOf ["async", "unsafe", "extern", "fn"] second then method
    else
      take
      wantedOneOf TraitItem.afterConst
  else if atWord "type" ts then
    g.typeItem false
    pure .other
  else if isPlain && TraitItem.atExpanded ts then
    expandedItem
    pure .other
  else wantedOneOf (TraitItem.starts isPlain)

/-- What follows the name and the parameters of a trait: its items. -/
def traitBody (g : Grammar) : Reader (List TraitItem) := do
  if ← skipSign ":" then
    g.boundsUpTo fun ts => atWord "where" ts || atGroup .brace ts
  let _ ← g.conditions
  within .brace do
    let _ ← g.innerAttributes
    manyWhile (!·.isEmpty) g.traitItem

def trait (g : Grammar) : Reader TraitDecl := do
  let _ ← g.outerAttributes
  let _ ← visibility
  let _ ← skipWord "unsafe"
  let _ ← skipWord "auto"
  word "trait"
  let ident ← Reader.ident
  let _ ← g.parameters
  pure { ident, items := ← g.traitBody }

end Grammar

end DuplexRpc.Declaration

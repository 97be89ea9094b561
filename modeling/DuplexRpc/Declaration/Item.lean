import DuplexRpc.Declaration.Statement
import DuplexRpc.Declaration.Trait.Reading

/-!
Reading the items that bodies hold: functions, types, modules, imports, implementations and others.
-/

namespace DuplexRpc.Declaration

namespace Grammar

open Reader

/-! ### Imports and foreign items -/

/-- The name that something is imported under. -/
def importedName : Reader Unit := do
  let ts ← ahead
  if atIdent ts || atWord "_" ts then take else wanted "identifier or underscore"

/-- What an import lists: a name, a path to more, everything, or a group. -/
def readImported (g : Grammar) (root : Bool) : Reader Unit := do
  let ts ← ahead
  if atIdent ts || atWordOf ["self", "super", "crate", "try"] ts then
    take
    if ← skipSign "::" then g.imported false
    else if ← skipWord "as" then importedName
  else if atSign "*" ts then take
  else if atGroup .brace ts then
    let _ ← within .brace <| listed do
      let isRoot ← if root then skipSign "::" else pure false
      g.imported (root && !isRoot)
  else
    wantedOneOf ["identifier", "`self`", "`super`", "`crate`", "`try`", "`*`", "curly braces"]

def importItem (g : Grammar) : Reader Unit := do
  word "use"
  let isRoot ← skipSign "::"
  g.imported !isRoot
  sign ";"

def packageItem : Reader Unit := do
  word "extern"
  word "crate"
  if ← isAhead (atWord "self") then take
  else
    let _ ← ident
  if ← skipWord "as" then
    if ← isAhead (atWord "_") then take
    else
      let _ ← ident
  sign ";"

/-- A static variable, of which the type or the value may be missing. -/
def staticItem (g : Grammar) : Reader Unit := do
  word "static"
  let _ ← skipWord "mut"
  let _ ← ident
  let hasType ← skipSign ":"
  if hasType then
    let _ ← g.type true
  else if !(← isAhead (atSign "=")) then throw (.sign ":")
  if !hasType || !(← isAhead (atSign ";")) then
    sign "="
    let _ ← g.expression true
  sign ";"

/-- A foreign function, which may have a body all the same. -/
def foreignFunction (g : Grammar) : Reader Unit := do
  let _ ← g.signature true
  if ← isAhead (atGroup .brace) then g.attributedBlock else sign ";"

/-- What a foreign item can start with. -/
def foreignStarts (isVisible : Bool) : List String :=
  ["`fn`", "`static`", "`type`"] ++
    if isVisible then [] else ["identifier", "`self`", "`super`", "`crate`", "`::`"]

def foreignItem (g : Grammar) : Reader Unit := do
  let _ ← g.outerAttributes
  let isVisible ← visibility
  let ts ← ahead
  if atSignature true ts then g.foreignFunction
  else if atWord "static" ts || (atWordOf ["unsafe", "safe"] ts && atWord "static" (ts.drop 1)) then
    if atWordOf ["unsafe", "safe"] ts then take
    g.staticItem
  else if atWord "type" ts then g.typeItem true
  else if !isVisible && TraitItem.atExpanded ts then expandedItem
  else wantedOneOf (foreignStarts isVisible)

def foreignItems (g : Grammar) : Reader Unit := do
  let _ ← skipWord "unsafe"
  word "extern"
  if (stringAhead? (← ahead)).isSome then take
  within .brace do
    let _ ← g.innerAttributes
    let _ ← manyWhile (!·.isEmpty) g.foreignItem

/-! ### Types -/

def namedField (g : Grammar) : Reader Unit := do
  let _ ← g.outerAttributes
  let _ ← visibility
  if ← isAhead (atWord "_") then take
  else
    let _ ← ident
  sign ":"
  let _ ← g.type true

def namedFields (g : Grammar) : Reader Unit := do
  let _ ← within .brace (listed g.namedField)

def tupleFields (g : Grammar) : Reader Unit := do
  let _ ← within .paren <| listed do
    let _ ← g.outerAttributes
    let _ ← visibility
    g.type true

def structItem (g : Grammar) : Reader Unit := do
  word "struct"
  let _ ← ident
  let _ ← g.parameters
  let hasConditions ← g.conditions
  let ts ← ahead
  if !hasConditions && atGroup .paren ts then
    g.tupleFields
    let hasConditions ← g.conditions
    if ← isAhead (atSign ";") then take
    else wantedOneOf (if hasConditions then ["`;`"] else ["`where`", "`;`"])
  else if atGroup .brace ts then g.namedFields
  else if atSign ";" ts then take
  else
    wantedOneOf <| if hasConditions then ["curly braces", "`;`"]
      else ["`where`", "parentheses", "curly braces", "`;`"]

/-- One of the forms of a type with several. -/
def variant (g : Grammar) : Reader Unit := do
  let _ ← g.outerAttributes
  let _ ← visibility
  let _ ← ident
  let ts ← ahead
  if atGroup .brace ts then g.namedFields
  else if atGroup .paren ts then g.tupleFields
  if ← skipSign "=" then
    let _ ← g.expression true

def enumItem (g : Grammar) : Reader Unit := do
  word "enum"
  let _ ← ident
  let _ ← g.parameters
  let _ ← g.conditions
  let _ ← within .brace (listed g.variant)

/-- A type whose fields share their place. -/
def unionItem (g : Grammar) : Reader Unit := do
  word "union"
  let _ ← ident
  let _ ← g.parameters
  let _ ← g.conditions
  g.namedFields

/-! ### Functions, modules and implementations -/

/-- A function, perhaps without a body. -/
def functionItem (g : Grammar) : Reader Unit := do
  let _ ← g.signature false
  if ← isAhead (atSign ";") then take else g.attributedBlock

/-- A module, with its items or without. -/
def moduleItem (g : Grammar) : Reader Unit := do
  let _ ← skipWord "unsafe"
  word "mod"
  if ← isAhead (atWord "try") then take
  else
    let _ ← ident
  let ts ← ahead
  if atSign ";" ts then take
  else if atGroup .brace ts then
    within .brace do
      let _ ← g.innerAttributes
      let _ ← manyWhile (!·.isEmpty) do
        let _ ← g.outerAttributes
        g.item
  else wantedOneOf ["`;`", "curly braces"]

/-- A trait, or a name for bounds. -/
def traitOrAlias (g : Grammar) : Reader Unit := do
  word "trait"
  let _ ← ident
  let _ ← g.parameters
  let ts ← ahead
  if atGroup .brace ts || atSign ":" ts || atWord "where" ts then
    let _ ← g.traitBody
  else if atSign "=" ts then
    take
    g.boundsUpTo fun ts => atWord "where" ts || atSign ";" ts
    let _ ← g.conditions
    sign ";"
  else wantedOneOf ["curly braces", "`:`", "`where`", "`=`"]

/-- What an item of an implementation can start with. -/
def implementedStarts (isPlain isDefault : Bool) : List String :=
  (if isDefault then [] else ["`default`"]) ++ ["`fn`", "`const`", "`type`"] ++
    if isPlain then ["identifier", "`self`", "`super`", "`crate`", "`::`"] else []

def implementedItem (g : Grammar) : Reader Unit := do
  let _ ← g.outerAttributes
  let isVisible ← visibility
  let ts ← ahead
  let isDefault := atWord "default" ts && !atSign "!" (ts.drop 1)
  if isDefault then take
  let ts ← ahead
  let isPlain := !isVisible && !isDefault
  if atSignature false ts then g.functionItem
  else if atWord "const" ts then g.constantItem
  else if atWord "type" ts then g.typeItem false
  else if isPlain && TraitItem.atExpanded ts then expandedItem
  else wantedOneOf (implementedStarts isPlain isDefault)

def implementation (g : Grammar) : Reader Unit := do
  let _ ← skipWord "default"
  let _ ← skipWord "unsafe"
  word "impl"
  if ← isAhead atParameters then
    let _ ← g.parameters
  let ts ← ahead
  if atWord "const" ts || (atSign "?" ts && atWord "const" (ts.drop 1)) then
    let _ ← skipSign "?"
    word "const"
  let ts ← ahead
  let isNegative := atSign "!" ts && !atGroup .brace (ts.drop 1)
  if isNegative then take
  let _ ← g.type true
  if ← skipWord "for" then
    let _ ← g.type true
  else if isNegative then refuse .negativeImplementation
  let _ ← g.conditions
  within .brace do
    let _ ← g.innerAttributes
    let _ ← manyWhile (!·.isEmpty) g.implementedItem

/-- A call of something that is expanded, which may be given a name. -/
def expandedWithName : Reader Unit := do
  let _ ← plainPath
  sign "!"
  let ts ← ahead
  if atWord "try" ts || atIdent ts then take
  if (← anyGroup) != .brace then sign ";"

/-- The definition of something that is expanded. -/
def expansionItem : Reader Unit := do
  word "macro"
  let _ ← ident
  let hasParameters ← isAhead (atGroup .paren)
  if hasParameters then take
  if ← isAhead (atGroup .brace) then take
  else wantedOneOf (if hasParameters then ["curly braces"] else ["parentheses", "curly braces"])

/-! ### Items -/

def itemStarts (isVisible : Bool) : List String :=
  ["`fn`", "`extern`", "`use`", "`static`", "`const`", "`unsafe`", "`mod`", "`type`", "`struct`",
      "`enum`", "`union`", "`trait`", "`auto`", "`impl`", "`default`", "`macro`"] ++
    if isVisible then [] else ["identifier", "`self`", "`super`", "`crate`", "`::`"]

/-- An item that starts with the keyword of foreign things. -/
def foreignOrPackage (g : Grammar) : Reader Unit := do
  let second := (← ahead).drop 1
  if atWord "crate" second then packageItem
  else if atGroup .brace second then g.foreignItems
  else if (stringAhead? second).isSome then
    if atGroup .brace (second.drop 1) then g.foreignItems
    else
      takeMany 2
      wantedOneOf ["curly braces"]
  else
    take
    wantedOneOf ["`crate`", "curly braces", "string literal"]

/-- An item that is marked as unsafe, other than a function. -/
def unsafeItem (g : Grammar) : Reader Unit := do
  let second := (← ahead).drop 1
  if atWord "trait" second || (atWord "auto" second && atWord "trait" (second.drop 1)) then
    let _ ← g.trait
  else if atWord "impl" second then g.implementation
  else if atWord "extern" second then g.foreignItems
  else if atWord "mod" second then g.moduleItem
  else
    take
    wantedOneOf ["`trait`", "`auto`", "`impl`", "`extern`", "`mod`"]

def readItem (g : Grammar) : Reader Unit := do
  let isVisible ← visibility
  let ts ← ahead
  let second := ts.drop 1
  if atSignature false ts then g.functionItem
  else if atWord "extern" ts then g.foreignOrPackage
  else if atWord "use" ts then g.importItem
  else if atWord "static" ts then g.staticItem
  else if atWord "const" ts then g.constantItem
  else if atWord "unsafe" ts then g.unsafeItem
  else if atWord "mod" ts then g.moduleItem
  else if atWord "type" ts then g.typeItem true
  else if atWord "struct" ts then g.structItem
  else if atWord "enum" ts then g.enumItem
  else if atWord "union" ts && atIdent second then g.unionItem
  else if atWord "trait" ts then g.traitOrAlias
  else if atWord "auto" ts && atWord "trait" second then
    let _ ← g.trait
  else if atWord "impl" ts || (atWord "default" ts && !atSign "!" second) then g.implementation
  else if atWord "macro" ts then expansionItem
  else if !isVisible && TraitItem.atExpanded ts then expandedWithName
  else wantedOneOf (itemStarts isVisible)

end Grammar

end DuplexRpc.Declaration

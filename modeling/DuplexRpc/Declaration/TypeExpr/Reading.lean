import DuplexRpc.Declaration.Bound

/-!
Reading types.
-/

namespace DuplexRpc.Declaration

namespace TypeExpr

def starts : List String :=
  ["`for`", "parentheses", "`fn`", "`unsafe`", "`extern`", "identifier", "`::`", "`<`", "`dyn`",
    "square brackets", "`*`", "`&`", "`!`", "`impl`", "`_`", "lifetime"]

/-- What can follow the lifetimes that a type is generic in. -/
def startsAfterBinder : List String :=
  ["identifier", "`fn`", "`unsafe`", "`extern`", "`super`", "`self`", "`Self`", "`crate`"]

def atFunction (ts : List Token) : Bool :=
  atWordOf ["fn", "unsafe", "extern"] ts

def atPath (ts : List Token) : Bool :=
  Reader.atPlainSegment ts || atSign "::" ts || atSign "<" ts

/-- The rest of the arguments of a function type stands for any number of them. -/
def atVariadic (ts : List Token) : Bool :=
  atSign "..." ts ||
    ((atIdent ts || atWord "_" ts) && atSign ":" (ts.drop 1) && atSign "..." (ts.drop 2))

end TypeExpr

namespace Grammar

open Reader

/-- The name of the calling convention of a function, which may be left out. -/
def convention : Reader Unit := do
  if ← skipWord "extern" then
    if (stringAhead? (← ahead)).isSome then take

/-- An argument of a function type, perhaps with a name. The first one may be a receiver. -/
def functionArgument (g : Grammar) (isFirst : Bool) : Reader Unit := do
  let _ ← g.outerAttributes
  let ts ← ahead
  let isMutable := isFirst && atWord "mut" ts && atWord "self" (ts.drop 1)
  if isMutable then take
  let ts ← ahead
  let canBeName := atIdent ts || atWord "_" ts || (isFirst && atWord "self" ts)
  if canBeName && atColon (ts.drop 1) then
    take
    sign ":"
    let type := ts.drop 2
    if isFirst && !atWord "self" ts && atWord "mut" type && atWord "self" (type.drop 1) then
      takeMany 2
    else
      let _ ← g.type true
  else if isMutable then word "self"
  else
    let _ ← g.type true

def functionArguments (g : Grammar) : Reader Unit := do
  let _ ← loop true fun isFirst => do
    if ← isAhead List.isEmpty then pure (isFirst, false)
    else
      let _ ← g.outerAttributes
      if ← isAhead TypeExpr.atVariadic then
        if !(← isAhead (atSign "...")) then
          take
          sign ":"
        sign "..."
        let _ ← skipSign ","
        pure (isFirst, false)
      else
        g.functionArgument isFirst
        if ← isAhead List.isEmpty then pure (false, false)
        else
          sign ","
          pure (false, true)

def functionType (g : Grammar) : Reader Unit := do
  let _ ← skipWord "unsafe"
  convention
  word "fn"
  enclosed .paren g.functionArguments fun _ => do
    let _ ← g.result? false

/-- Refuses bounds of lifetimes and captures alone. -/
def requireTrait (what : Misplaced) (found : List Bound) : Reader Unit :=
  unless found.any fun b => b = .trait || b = .constant do refuse what

/-- Bounds after the first one of a type without a keyword: whether there are none. -/
def moreBounds (g : Grammar) : Reader Bool :=
  loop true fun isSingle => do
    if ← skipSign "+" then
      if ← isAhead (atBound false) then
        let _ ← g.bound false false
        pure (false, true)
      else pure (false, false)
    else pure (isSingle, false)

/-- Bounds after the first one of a type without a keyword, which is in parentheses. -/
def boundsAfterParen (g : Grammar) : Reader Bool :=
  loop true fun isSingle => do
    if ← skipSign "+" then
      let _ ← g.bound false false
      pure (false, true)
    else pure (isSingle, false)

/-- What stands in parentheses in a type. -/
inductive ParenContent where
  | nothing
  | lifetime (t : TypeExpr)
  | optional
  | single (t : TypeExpr)
  | several

/-- What stands in the parentheses of a type. -/
def parenContent (g : Grammar) : Reader ParenContent := do
  let ts ← ahead
  if ts.isEmpty then pure .nothing
  else if atLifetime ts then pure (.lifetime (← g.type true))
  else if atSign "?" ts then
    let _ ← g.traitBound false
    pure .optional
  else
    let first ← g.type true
    if ← skipSign "," then
      let _ ← listed (g.type true)
      pure .several
    else pure (.single first)

def parenType (g : Grammar) (plus : Bool) : Reader (String → TypeExpr) :=
  enclosed .paren g.parenContent fun content => do
    match content with
    | .nothing | .several => pure .other
    | .lifetime t => pure fun _ => .paren t
    | .optional =>
      let isSingle ← g.boundsAfterParen
      pure fun text => .bounds text isSingle
    | .single t =>
      if plus && t.canBeBound && atSign "+" (← ahead) then
        let isSingle ← g.boundsAfterParen
        pure fun text => .bounds text isSingle
      else pure fun _ => .paren t

/-- A type that starts with a path: the path, something that is expanded, or bounds. -/
def pathType (g : Grammar) (plus isBinder : Bool) : Reader (String → TypeExpr) := do
  let t ← g.typePath
  if t.isQualified then pure fun _ => t
  else
    let ts ← ahead
    if atSign "!" ts && !atSign "!=" ts && t.isPlainPath then
      take
      let _ ← anyGroup
      pure .other
    else if isBinder || (plus && atSign "+" ts) then
      let isSingle ← if plus then g.moreBounds else pure true
      pure fun text => .bounds text isSingle
    else pure fun _ => t

def bracketType (g : Grammar) : Reader (String → TypeExpr) :=
  within .bracket do
    let t ← g.type true
    if ← skipSign ";" then
      let _ ← g.expression true
      pure .other
    else pure fun _ => .slice t

def pointerType (g : Grammar) : Reader Unit := do
  sign "*"
  if ← isAhead (atWordOf ["const", "mut"]) then take
  else wantedOneOf ["`const`", "`mut`"]
  let _ ← g.type false

def referenceType (g : Grammar) : Reader TypeExpr := do
  sign "&"
  let lifetime ← skipLifetime
  let mutable ← skipWord "mut"
  pure (.reference lifetime mutable (← g.type false))

/-- A type, given as what its text makes of it. -/
def typeAhead (g : Grammar) (plus : Bool) : Reader (String → TypeExpr) := do
  let isBinder ← g.binder
  let ts ← ahead
  if isBinder && !(TypeExpr.atFunction ts || atPlainSegment ts) then
    wantedOneOf TypeExpr.startsAfterBinder
  else if atGroup .paren ts then g.parenType plus
  else if TypeExpr.atFunction ts then
    g.functionType
    pure .other
  else if TypeExpr.atPath ts then g.pathType plus isBinder
  else if atWord "dyn" ts then
    take
    let _ ← skipSign "*"
    requireTrait .objectWithoutTrait (← g.bounds plus false false)
    pure .other
  else if atGroup .bracket ts then g.bracketType
  else if atSign "*" ts then
    g.pointerType
    pure .other
  else if atSign "&" ts then
    let t ← g.referenceType
    pure fun _ => t
  else if atSign "!" ts || atWord "_" ts then
    take
    pure .other
  else if atWord "impl" ts then
    take
    requireTrait .opaqueWithoutTrait (← g.bounds plus true true)
    pure .other
  else if atLifetime ts then
    let found ← g.bounds true false false
    requireTrait .objectWithoutTrait found
    pure fun text => .bounds text (found.length == 1)
  else wantedOneOf TypeExpr.starts

def readType (g : Grammar) (plus : Bool) : Reader TypeExpr := do
  let (build, text) ← captured (g.typeAhead plus)
  pure (build text)

end Grammar

end DuplexRpc.Declaration

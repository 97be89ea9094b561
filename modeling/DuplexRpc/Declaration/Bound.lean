import DuplexRpc.Declaration.Path

/-!
Bounds, generic parameters and conditions.
-/

namespace DuplexRpc.Declaration

/-- A bound goes on here after a plus sign, perhaps one that holds in constants. -/
def atBound (constants : Bool) (ts : List Token) : Bool :=
  atAnyWord ts || atSign "::" ts || atSign "?" ts || atLifetime ts || atGroup .paren ts ||
    (constants && atGroup .bracket ts)

/-- The conditions of an item end here, or the bounds of one of them. -/
def atConditionEnd (ts : List Token) : Bool :=
  ts.isEmpty || atGroup .brace ts || atSign "," ts || atSign ";" ts || atColon ts || atSign "=" ts

/-- What stands at the front is the start of parameters, rather than of a type in angle
brackets. -/
def atParameters (ts : List Token) : Bool :=
  let second := ts.drop 1
  let third := ts.drop 2
  atSign "<" ts &&
    (atSign ">" second || atSign "#" second ||
      ((atLifetime second || atIdent second) &&
        (atSign ">" third || atSign "," third || atColon third || atSign "=" third)) ||
      atWord "const" second)

namespace Grammar

open Reader

/-- A parameter that stands for a lifetime, with the lifetimes that bound it. -/
def lifetimeParameter : Reader Unit := do
  let _ ← lifetime
  if ← skipSign ":" then
    joined (fun ts => ts.isEmpty || atSign "," ts || atSign ">" ts) "+" lifetime

/-- A parameter that stands for a type, with its bounds and its default. -/
def typeParameter (g : Grammar) : Reader Unit := do
  let _ ← ident
  if ← skipSign ":" then
    joined (fun ts => ts.isEmpty || atSignOf [",", ">", "="] ts) "+" (g.bound false true)
  if ← skipSign "=" then
    let _ ← g.type true

/-- A parameter that stands for a constant, with its type and its default. -/
def constantParameter (g : Grammar) : Reader Unit := do
  word "const"
  let _ ← ident
  sign ":"
  let _ ← g.type true
  if ← skipSign "=" then g.constant

/-- A parameter that lifetimes before a type introduce. -/
def boundParameter (g : Grammar) : Reader Unit := do
  let _ ← g.outerAttributes
  let ts ← ahead
  if atIdent ts then g.typeParameter
  else if atLifetime ts then lifetimeParameter
  else if atWord "const" ts then g.constantParameter
  else wantedOneOf ["identifier", "lifetime", "`const`"]

/-- Parameters before a type that is generic in them: whether there are any. -/
def binder (g : Grammar) : Reader Bool := do
  if ← isAhead (atWord "for") then
    take
    sign "<"
    let _ ← separated (atSign ">") "," g.boundParameter
    sign ">"
    pure true
  else pure false

def parameter (g : Grammar) : Reader Unit := do
  let _ ← g.outerAttributes
  let ts ← ahead
  if atLifetime ts then lifetimeParameter
  else if atIdent ts then g.typeParameter
  else if atWord "const" ts then g.constantParameter
  else if atWord "_" ts then take
  else wantedOneOf ["lifetime", "identifier", "`const`"]

/-- The generic parameters of an item, which may be left out: whether there are any. -/
def parameters (g : Grammar) : Reader Bool := do
  if ← isAhead (atSign "<") then
    sign "<"
    let found ← separated (atSign ">") "," g.parameter
    sign ">"
    pure !found.isEmpty
  else pure false

/-- What a type captures. -/
def captures : Reader Unit := do
  word "use"
  sign "<"
  let atCapture (ts : List Token) : Bool := atLifetime ts || atIdent ts || atWord "Self" ts
  let _ ← textedBy (fun found => TypeExpr.joinArgs found) <| loop [] fun found => do
    let ts ← ahead
    if atCapture ts then
      let isLifetime := atLifetime ts
      let (_, text) ← captured take
      let ts ← ahead
      if atSign "," ts then
        take
        pure (found ++ [(isLifetime, text, true)], true)
      else if atSign ">" ts then pure (found ++ [(isLifetime, text, false)], false)
      else wantedOneOf ["`,`", "`>`"]
    else if atSign ">" ts then pure (found, false)
    else wantedOneOf ["lifetime", "identifier", "`>`"]
  sign ">"

/-- The mark of a bound that holds in constants: whether there is one. -/
def constancy (constants : Bool) : Reader Bool := do
  let ts ← ahead
  if atGroup .bracket ts then
    within .bracket do
      word "const"
      unless constants do refuse .conditionalBound
    pure true
  else if ← skipWord "const" then
    unless constants do refuse .constantBound
    pure true
  else pure false

def traitBound (g : Grammar) (constants : Bool) : Reader Bound := do
  let isBinder ← g.binder
  let isConstant ← constancy constants
  let isOptional ← skipSign "?"
  let isBinder ← if isOptional && !isBinder then g.binder else pure isBinder
  g.boundPath
  if isBinder && isOptional then refuse .binderWithQuestion
  pure (if isConstant then .constant else .trait)

def readBound (g : Grammar) (captures constants : Bool) : Reader Bound := do
  let ts ← ahead
  if atLifetime ts then
    take
    pure .lifetime
  else if atWord "use" ts then
    Grammar.captures
    unless captures do refuse .capture
    pure .capture
  else if atGroup .paren ts then within .paren (g.traitBound constants)
  else g.traitBound constants

/-- Bounds joined by plus signs, one alone if `plus` does not hold. A plus sign may follow the
last. -/
def bounds (g : Grammar) (plus captures constants : Bool) : Reader (List Bound) :=
  loop [] fun found => do
    let found := found ++ [← g.bound captures constants]
    if plus && atSign "+" (← ahead) then
      take
      pure (found, ← isAhead (atBound constants))
    else pure (found, false)

/-- Bounds joined by plus signs, up to where a test holds. A plus sign may follow the last. -/
def boundsUpTo (g : Grammar) (ends : List Token → Bool) : Reader Unit := do
  let _ ← separated ends "+" (g.bound false true)

/-- A condition: what bounds a lifetime or a type. -/
def condition (g : Grammar) : Reader Unit := do
  let ts ← ahead
  if atLifetime ts && atSign ":" (ts.drop 1) then
    take
    take
    let ends (ts : List Token) : Bool := atConditionEnd ts || atSign ":" ts
    joined ends "+" lifetime
  else
    let _ ← g.binder
    let _ ← g.type true
    sign ":"
    joined atConditionEnd "+" (g.bound false true)

/-- Conditions, which may be left out: whether there are any. -/
def conditions (g : Grammar) : Reader Bool := do
  if ← skipWord "where" then
    if ← isAhead atParameters then refuse .whereParameters
    joined atConditionEnd "," g.condition
    pure true
  else pure false

end Grammar

end DuplexRpc.Declaration

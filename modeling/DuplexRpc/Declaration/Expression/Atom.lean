import DuplexRpc.Declaration.Expression.Control

/-!
Reading operands: prefixes, an atom, and what trails it.
-/

namespace DuplexRpc.Declaration

namespace Grammar

open Reader

/-- A value for a field of a structure. -/
def fieldValue (g : Grammar) : Reader Unit := do
  let _ ← g.outerAttributes
  let isNamed ← member
  if !isNamed || atSign ":" (← ahead) then
    sign ":"
    let _ ← g.expression true

/-- The values for the fields of a structure, of which the rest may come from another one. -/
def fieldValues (g : Grammar) : Reader Unit :=
  loop () fun () => do
    if ← isAhead List.isEmpty then pure ((), false)
    else if ← skipSign ".." then
      if !(← isAhead List.isEmpty) then
        let _ ← g.expression true
      pure ((), false)
    else
      g.fieldValue
      if ← isAhead List.isEmpty then pure ((), false)
      else
        sign ","
        pure ((), true)

/-- A path, something that is expanded, or a structure. -/
def pathExpression (g : Grammar) (structs : Bool) : Reader Expression := do
  let path ← g.valuePath
  let ts ← ahead
  if !path.isQualified && path.isPlainPath && atSign "!" ts && !atSign "!=" ts then
    take
    pure (.expanded ((← anyGroup) = .brace))
  else
    if structs && atGroup .brace ts then within .brace g.fieldValues
    pure .other

/-- What stands between the brackets of an array. -/
def arrayContent (g : Grammar) : Reader Unit := do
  if !(← isAhead List.isEmpty) then
    let _ ← g.expression true
    let ts ← ahead
    if ts.isEmpty then pure ()
    else if ← skipSign "," then
      let _ ← listed (g.expression true)
    else if ← skipSign ";" then
      let _ ← g.expression true
    else wanted "`,` or `;`"

def callArguments (g : Grammar) : Reader Unit := do
  let _ ← within .paren (listed (g.expression true))

/-- A field, a call of a method, or the wait for a future, after its dot. -/
def access (g : Grammar) : Reader Unit := do
  let found := Expression.fractionAhead? (← ahead)
  let isWhole ← match found with
    | none => pure false
    | some (isNegative, number) => do
      takeMany (literalSize (← ahead))
      let (parts, isOpen) := Expression.places number
      for (part, i) in parts.zipIdx do
        let _ ← Expression.checkPlace (isNegative && i == 0) part
      pure !isOpen
  unless isWhole do
    unless ← skipWord "await" do
      let isNamed ← member
      if isNamed && atSign "::" (← ahead) then
        sign "::"
        let _ ← g.angleArguments
        g.callArguments
      else if isNamed && atGroup .paren (← ahead) then g.callArguments

/-- What trails an atom: calls, accesses, indices and questions. -/
def trailers (g : Grammar) (e : Expression) : Reader Expression :=
  loop e fun e => do
    let ts ← ahead
    if atGroup .paren ts then
      g.callArguments
      pure (.other, true)
    else if atDot ts && e != .range then
      sign "."
      g.access
      pure (.other, true)
    else if atGroup .bracket ts then
      let _ ← within .bracket (g.expression true)
      pure (.other, true)
    else if atSign "?" ts && e != .range then
      take
      pure (.other, true)
    else pure (e, false)

/-- A keyword of the compiler with arguments of its own. -/
def builtin : Reader Unit := do
  take
  sign "#"
  let _ ← ident
  within .paren do
    takeMany (← ahead).length

/-- A block that runs on its own. -/
def asyncBlock (g : Grammar) : Reader Unit := do
  word "async"
  let _ ← skipWord "move"
  g.block

/-- An atom: an expression that has no operators outside of its parts. -/
def atom (g : Grammar) (structs : Bool) : Reader Expression := do
  let ts ← ahead
  let other (p : Reader Unit) : Reader Expression := do
    p
    pure .other
  if atLiteral ts then other literal
  else if Expression.atAsyncBlock ts then other g.asyncBlock
  else if Expression.atTryBlock ts then other g.tryBlock
  else if Expression.atClosure ts then other (g.closure structs)
  else if atWord "builtin" ts && atSign "#" (ts.drop 1) then other builtin
  else if Expression.atPath ts then g.pathExpression structs
  else if atGroup .paren ts then other g.callArguments
  else if atWord "break" ts then other (g.jumpOut structs)
  else if atWord "continue" ts then
    take
    let _ ← skipLifetime
    pure .other
  else if atWordOf ["return", "yield"] ts then
    take
    other (g.carried true)
  else if atWord "become" ts then
    take
    let _ ← g.expression true
    pure .other
  else if atGroup .bracket ts then other (within .bracket g.arrayContent)
  else if atWord "let" ts then other (g.binding structs)
  else
    match g.blockAhead? ts with
    | some p => other p
    | none =>
      if atSign ".." ts then
        g.rangeTail structs
        pure .range
      else if atWord "_" ts then other take
      else wanted "an expression"

/-- A reference, or the address of a place. -/
def referenceExpression (g : Grammar) (structs : Bool) : Reader Unit := do
  sign "&"
  let ts ← ahead
  let isRaw := atWord "raw" ts && atWordOf ["mut", "const"] (ts.drop 1)
  if isRaw then take
  let isMutable ← skipWord "mut"
  if isRaw && !isMutable then word "const"
  let _ ← g.operand structs

/-- An operand: an atom with what trails it, behind attributes and prefixes. -/
def readOperand (g : Grammar) (structs : Bool) : Reader Expression := do
  let attributes ← g.outerAttributes
  let ts ← ahead
  if atSign "&" ts then
    g.referenceExpression structs
    pure .other
  else if atSignOf ["*", "!", "-"] ts then
    take
    let _ ← g.operand structs
    pure .other
  else
    let e ← g.trailers (← g.atom structs)
    if !attributes.isEmpty && e = .range then refuse .attributeOfRange
    pure e

/-- An expression in the place of a statement or of a case: a block that it starts with ends it,
unless an access or a question follows. -/
def readLeading (g : Grammar) : Reader Expression := do
  let _ ← g.outerAttributes
  match g.blockAhead? (← ahead) with
  | none => g.expression true
  | some p => do
    p
    let ts ← ahead
    if atDot ts || atSign "?" ts then
      g.operations true .jump (← g.trailers .other)
    else pure .block

end Grammar

end DuplexRpc.Declaration

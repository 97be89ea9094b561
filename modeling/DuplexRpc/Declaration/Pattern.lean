import DuplexRpc.Declaration.Bound

/-!
Reading patterns: those of parameters, and those in bodies and in the lengths of arrays.
-/

namespace DuplexRpc.Declaration

namespace Pattern

def starts : List String :=
  ["identifier", "`::`", "`<`", "`_`", "literal", "`const`", "`ref`", "`mut`", "`&`",
    "parentheses", "square brackets", "`..`", "`const`"]

/-- What can be the start or the end of a range. -/
def limits : List String :=
  ["literal", "identifier", "`::`", "`<`", "`self`", "`Self`", "`super`", "`crate`", "`const`"]

/-- A path starts here that is more than a name, or that is no name. -/
def atPath (ts : List Token) : Bool :=
  let rest := ts.drop 1
  (atIdent ts && (atSignOf ["::", "!", ".."] rest || atGroup .brace rest || atGroup .paren rest)) ||
    (atWord "self" ts && atSign "::" rest) || atSignOf ["::", "<"] ts ||
    atWordOf ["Self", "super", "crate"] ts

/-- A range ends here without a limit. -/
def atRangeEnd (ts : List Token) : Bool :=
  ts.isEmpty || atSignOf ["|", "=", ",", ";"] ts || atColon ts || atWord "if" ts

def atAlternative (ts : List Token) : Bool :=
  atSign "|" ts && !atSign "||" ts && !atSign "|=" ts

end Pattern

namespace Grammar

open Reader

/-- The operator of a range: whether the range holds its limit. Three dots can stand for `..=` where
`old` holds. -/
def rangeOperator (old : Bool) : Reader Bool := do
  let ts ← ahead
  if atSign "..=" ts then
    takeMany 3
    pure true
  else if atSign "..." ts then
    if old then
      textedBy (fun _ => "..=") (takeMany 3)
      pure true
    else wantedOneOf ["`..`", "`..=`"]
  else if atSign ".." ts then
    takeMany 2
    pure false
  else wantedOneOf ["`..`"]

/-- A limit of a range in a pattern, which may be left out: whether it is there. -/
def patternLimit (g : Grammar) : Reader Bool := do
  let ts ← ahead
  if Pattern.atRangeEnd ts then pure false
  else
    if atLiteral ts then literal
    else if atPlainSegment ts || atSignOf ["::", "<"] ts then
      let _ ← g.valuePath
    else if atWord "const" ts then
      take
      g.attributedBlock
    else wantedOneOf Pattern.limits
    pure true

/-- The end of a range in a pattern, from its operator on: whether it has a limit. -/
def patternRange (g : Grammar) (old : Bool) : Reader Bool := do
  let isClosed ← rangeOperator old
  let hasLimit ← g.patternLimit
  if isClosed && !hasLimit then wanted "range upper bound"
  pure hasLimit

/-- A pattern of several alternatives. A bar may stand before the first one if `leading` holds. -/
def alternatives (g : Grammar) (leading : Bool) : Reader Pattern := do
  let isSeveral ← if leading then skipSign "|" else pure false
  let first ← g.pattern
  if isSeveral || Pattern.atAlternative (← ahead) then
    let _ ← manyWhile Pattern.atAlternative do
      sign "|"
      g.pattern
    pure .other
  else pure first

/-- The name of a field or its place: whether it is a name. -/
def member : Reader Bool := do
  let ts ← ahead
  if atIdent ts then
    take
    pure true
  else
    match integerAhead? ts with
    | some (isNegative, n, hasSuffix) => do
      takeMany (literalSize ts)
      if hasSuffix then throw (.wanted "unsuffixed integer" false)
      else if isNegative then throw (.number .invalidDigit)
      else if n < 0x100000000 then pure false
      else throw (.number .tooLarge)
    | none => wanted "identifier or integer"

/-- A field of a structure in a pattern. -/
def fieldPattern (g : Grammar) : Reader Unit := do
  let isBoxed ← skipWord "box"
  let isReference ← skipWord "ref"
  let isMutable ← skipWord "mut"
  if isBoxed || isReference || isMutable then
    let _ ← ident
  else
    let isNamed ← member
    if !isNamed || atSign ":" (← ahead) then
      sign ":"
      let _ ← g.alternatives true

/-- The fields of a structure in a pattern, of which the rest may be left out. -/
def fieldPatterns (g : Grammar) : Reader Unit :=
  loop () fun () => do
    if ← isAhead List.isEmpty then pure ((), false)
    else
      let _ ← g.outerAttributes
      if ← skipSign ".." then pure ((), false)
      else
        g.fieldPattern
        if ← isAhead List.isEmpty then pure ((), false)
        else
          sign ","
          pure ((), true)

/-- A pattern that starts with a path. -/
def pathPattern (g : Grammar) : Reader Pattern := do
  let path ← g.valuePath
  let ts ← ahead
  if !path.isQualified && path.isPlainPath && atSign "!" ts && !atSign "!=" ts then
    take
    let _ ← anyGroup
    pure .other
  else if atGroup .brace ts then
    within .brace g.fieldPatterns
    pure .other
  else if atGroup .paren ts then
    let _ ← within .paren (listed (g.alternatives true))
    pure .other
  else if atSign ".." ts then
    pure (if ← g.patternRange true then .other else .openRange)
  else pure .other

/-- A name, perhaps with a pattern for what it stands for. -/
def namePattern (g : Grammar) : Reader Pattern := do
  let _ ← skipWord "ref"
  let _ ← skipWord "mut"
  let name ← if ← isAhead (atWord "self") then anyWord else ident
  if ← skipSign "@" then
    let _ ← g.pattern
  pure (.name name)

/-- A pattern that starts with a literal or a constant. -/
def limitPattern (g : Grammar) : Reader Pattern := do
  let _ ← g.patternLimit
  if atSign ".." (← ahead) then
    pure (if ← g.patternRange true then .other else .openRange)
  else pure .other

def slicePatterns (g : Grammar) : Reader Unit := do
  let _ ← listed do
    let item ← g.alternatives true
    if item = .openRange then refuse .openRangeInSlice

/-- A pattern that is no list of alternatives. -/
def readPattern (g : Grammar) : Reader Pattern := do
  let ts ← ahead
  if Pattern.atPath ts then g.pathPattern
  else if atWord "_" ts then
    take
    pure .wild
  else if atWord "box" ts then
    take
    let _ ← g.pattern
    pure .other
  else if atSign "-" ts || atLiteral ts || atWord "const" ts then g.limitPattern
  else if atWordOf ["ref", "mut", "self"] ts || atIdent ts then g.namePattern
  else if atSign "&" ts then
    take
    let _ ← skipWord "mut"
    let _ ← g.pattern
    pure .other
  else if atGroup .paren ts then
    let _ ← within .paren (listed (g.alternatives true))
    pure .other
  else if atGroup .bracket ts then
    within .bracket g.slicePatterns
    pure .other
  else if atSign ".." ts && !atSign "..." ts then
    let isClosed := atSign "..=" ts
    let hasLimit ← g.patternRange false
    pure (if isClosed || hasLimit then .openRange else .other)
  else wantedOneOf Pattern.starts

end Grammar

end DuplexRpc.Declaration

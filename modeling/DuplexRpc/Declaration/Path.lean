import DuplexRpc.Declaration.Attribute

/-!
Paths with arguments. In types the arguments of a segment follow it at once; in expressions they
stand behind a double colon, because an angle bracket alone compares there.
-/

namespace DuplexRpc.Declaration

/-- The last segment of a path has no arguments. -/
def lacksArguments (segments : List Segment) : Bool :=
  match segments.getLast? with
  | some (.other _ _) => false
  | some (.angled _ _ args) => args.isEmpty
  | _ => true

/-- The path with parentheses as the arguments of its last segment. -/
def withParentheses (segments : List Segment) (text : String) : List Segment :=
  match segments.getLast? with
  | some (.plain name) | some (.angled name _ _) | some (.other name _) =>
    segments.dropLast ++ [.other name text]
  | none => []

/-- Parentheses with arguments stand at the front, perhaps behind a double colon. -/
def atParentheses (ts : List Token) : Bool :=
  atGroup .paren ts || (atSign "::" ts && atGroup .paren (ts.drop 2))

namespace Grammar

open Reader

/-- A constant as an argument: a literal, a name or a block. -/
def constant (g : Grammar) : Reader Unit := do
  let ts ← ahead
  if atLiteral ts then literal
  else if atIdent ts then take
  else if atGroup .brace ts then g.attributedBlock
  else wantedOneOf []

/-- An argument in angle brackets after a name that an equals sign or a colon may follow: whether
there was more than the type. -/
def restOfArgument (g : Grammar) (t : TypeExpr) : Reader Bool := do
  if !t.isSimple then pure false
  else if ← skipSign "=" then
    let ts ← ahead
    if atLiteral ts || atGroup .brace ts then g.constant
    else
      let _ ← g.type true
    pure true
  else if ← skipSign ":" then
    joined (atSignOf [",", ">"]) "+" (g.bound false true)
    pure true
  else pure false

def angleArgument (g : Grammar) : Reader GenericArg := do
  let ts ← ahead
  if atLifetime ts && !atSign "+" (ts.drop 1) then
    pure (.lifetime (← lifetime))
  else if atLiteral ts || atGroup .brace ts then
    let (_, text) ← captured g.constant
    pure (.other text)
  else
    let ((t, hasMore), text) ← captured do
      let t ← g.type true
      pure (t, ← g.restOfArgument t)
    pure (if hasMore then .other text else .type t)

def angleArguments (g : Grammar) : Reader (List (GenericArg × Bool)) :=
  textedBy (fun args => "<" ++ TypeExpr.joinArgs (TypeExpr.argTexts args) ++ ">") do
    sign "<"
    let args ← separated (atSign ">") "," g.angleArgument
    sign ">"
    pure args

/-- A result after an arrow, if there is one. -/
def result? (g : Grammar) (plus : Bool) : Reader (Option TypeExpr) := do
  if ← skipSign "->" then
    pure (some (← g.type plus))
  else pure none

/-- Arguments in parentheses, with a result: the result. -/
def parenthesizedArguments (g : Grammar) : Reader (Option TypeExpr) :=
  enclosed .paren (listed (g.type true)) fun _ => g.result? false

def segment (g : Grammar) (inExpression : Bool) : Reader Segment := do
  if ← isAhead (atWordOf ["super", "self", "crate", "try"]) then
    pure (.plain (← anyWord))
  else
    let name ← if ← isAhead (atWord "Self") then anyWord else ident
    let ts ← ahead
    if (!inExpression && atSign "<" ts && !atSign "<=" ts) ||
        (atSign "::" ts && atSign "<" (ts.drop 2)) then
      let hasColons ← skipSign "::"
      pure (.angled name (if hasColons then "::" else "") (← g.angleArguments))
    else pure (.plain name)

/-- The segments after the first one, up to one that parentheses follow. -/
def moreSegments (g : Grammar) (inExpression : Bool) (segments : List Segment) :
    Reader (List Segment) :=
  loop segments fun segments => do
    let ts ← ahead
    if atSign "::" ts && !atGroup .paren (ts.drop 2) then
      sign "::"
      pure (segments ++ [← g.segment inExpression], true)
    else pure (segments, false)

/-- A path: whether it starts at the root, and its segments. -/
def path (g : Grammar) (inExpression : Bool) : Reader TypeExpr := do
  let front := if ← skipSign "::" then "::" else ""
  let segments ← g.moreSegments inExpression [← g.segment inExpression]
  pure (.path front segments)

/-- A type in angle brackets that a path starts with, perhaps as an implementation of a trait. -/
def qualification (g : Grammar) : Reader Unit := do
  sign "<"
  let _ ← g.type true
  if ← skipWord "as" then
    let _ ← g.path false
  sign ">"
  sign "::"

/-- A path that may start with a type in angle brackets. -/
def qualifiedPath (g : Grammar) (inExpression : Bool) : Reader TypeExpr := do
  if ← isAhead (atSign "<") then
    let (_, front) ← captured g.qualification
    let segments ← loop [← g.segment inExpression] fun segments => do
      if ← skipSign "::" then pure (segments ++ [← g.segment inExpression], true)
      else pure (segments, false)
    pure (.path front segments)
  else g.path inExpression

/-- Parentheses as the arguments of the last segment, if it has no arguments. More segments may
follow where no result does. -/
def calls (g : Grammar) (segments : List Segment) : Reader (List Segment) :=
  loop segments fun segments => do
    if lacksArguments segments && atParentheses (← ahead) then
      let _ ← skipSign "::"
      let (result, text) ← captured g.parenthesizedArguments
      let segments := withParentheses segments text
      match result with
      | none | some (.paren _) => pure (← g.moreSegments false segments, true)
      | some _ => pure (segments, true)
    else pure (segments, false)

def typePath (g : Grammar) : Reader TypeExpr :=
  textedBy TypeExpr.text do
    match ← g.qualifiedPath false with
    | .path front segments => pure (.path front (← g.calls segments))
    | t => pure t

def boundPath (g : Grammar) : Reader Unit := do
  let _ ← textedBy TypeExpr.text do
    match ← g.path false with
    | .path front segments =>
      if lacksArguments segments && atParentheses (← ahead) then
        let _ ← skipSign "::"
        let (_, text) ← captured g.parenthesizedArguments
        pure (.path front (withParentheses segments text))
      else pure (.path front segments)
    | t => pure t

/-- A path in an expression or in a pattern. -/
def valuePath (g : Grammar) : Reader TypeExpr :=
  g.qualifiedPath true

end Grammar

end DuplexRpc.Declaration

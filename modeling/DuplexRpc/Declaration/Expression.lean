import DuplexRpc.Declaration.Pattern

/-!
Reading expressions: those in bodies, in the lengths of arrays and in the values of attributes. An
expression consists of operands, which are prefixes, an atom and what trails it, and of the
operators between them.
-/

namespace DuplexRpc.Declaration

namespace Expression

/-- The operators between two operands, longer ones first, each with how strongly it binds. -/
def operators : List (String × Precedence) :=
  [("+=", .assign), ("-=", .assign), ("*=", .assign), ("/=", .assign), ("%=", .assign),
    ("^=", .assign), ("&=", .assign), ("|=", .assign), ("<<=", .assign), (">>=", .assign),
    ("&&", .and), ("||", .or), ("<<", .shift), (">>", .shift), ("==", .compare), ("<=", .compare),
    ("!=", .compare), (">=", .compare), ("+", .sum), ("-", .sum), ("*", .product),
    ("/", .product), ("%", .product), ("^", .bitXor), ("&", .bitAnd), ("|", .bitOr),
    ("<", .compare), (">", .compare)]

def operatorAhead? (ts : List Token) : Option (String × Precedence) :=
  operators.find? fun o => atSign o.1 ts

def atAssignment (ts : List Token) : Bool :=
  atSign "=" ts && !atSign "=>" ts

/-- How strongly the operator at the front binds. -/
def precedenceAhead (ts : List Token) : Precedence :=
  match operatorAhead? ts with
  | some (_, p) => p
  | none =>
    if atAssignment ts then .assign
    else if atSign ".." ts then .range
    else if atWord "as" ts then .conversion
    else .jump

def canStart (ts : List Token) : Bool :=
  (atAnyWord ts && !atWord "as" ts) || atGroup .paren ts || atGroup .bracket ts ||
    atGroup .brace ts || atLiteral ts || (atSign "!" ts && !atSign "!=" ts) ||
    (atSign "-" ts && !atSignOf ["-=", "->"] ts) || (atSign "*" ts && !atSign "*=" ts) ||
    (atSign "|" ts && !atSign "|=" ts) || (atSign "&" ts && !atSign "&=" ts) ||
    atSignOf ["..", "::", "#"] ts || (atSign "<" ts && !atSignOf ["<=", "<<="] ts) ||
    atLifetime ts

/-- A range ends here without a limit. -/
def atRangeEnd (structs : Bool) (ts : List Token) : Bool :=
  ts.isEmpty || atDot ts || (!structs && atGroup .brace ts) || atWord "as" ts ||
    atSignOf [",", ";", "?", "=>", "=", "+", "/", "%", "^", ">", "<=", "!=", "-=", "*=", "&=", "|=",
      "<<="] ts

def atClosure (ts : List Token) : Bool :=
  let rest := ts.drop 1
  atSign "|" ts || atWord "move" ts || (atWord "for" ts && atParameters rest) ||
    (atWord "const" ts && !atGroup .brace rest) || atWord "static" ts ||
    (atWord "async" ts && (atSign "|" rest || atWord "move" rest))

/-- A block that runs on its own starts here. -/
def atAsyncBlock (ts : List Token) : Bool :=
  let rest := ts.drop 1
  atWord "async" ts &&
    (atGroup .brace rest || (atWord "move" rest && atGroup .brace (rest.drop 1)))

/-- A block that failures leave starts here. -/
def atTryBlock (ts : List Token) : Bool :=
  atWord "try" ts && atGroup .brace (ts.drop 1)

def atPath (ts : List Token) : Bool :=
  Reader.atPlainSegment ts || atSignOf ["::", "<"] ts ||
    (atWord "try" ts && atSignOf ["!", "::"] (ts.drop 1))

def afterConversion? (ts : List Token) : Option String :=
  if atDot ts then
    let second := ts.drop 1
    let third := ts.drop 2
    if atWord "await" second then some "`.await`"
    else if atIdent second && (atGroup .paren third || atSign "::" third) then
      some "a method call"
    else some "a field access"
  else if atSign "?" ts then some "`?`"
  else if atGroup .bracket ts then some "indexing"
  else if atGroup .paren ts then some "a function call"
  else none

/-- The parts between the dots of a number that stands for places, and whether a dot ends it. -/
def places (number : String) : List String × Bool :=
  let parts := number.splitOn "."
  if parts.getLast? = some "" then (parts.dropLast, true) else (parts, false)

/-- A place that is written as a part of a number. -/
def checkPlace (isNegative : Bool) (part : String) : Reading Unit :=
  match Literal.integer? part with
  | none => .error (.wanted "integer literal" false)
  | some (n, hasSuffix) =>
    if hasSuffix then .error (.wanted "unsuffixed integer" false)
    else if isNegative then .error (.number .invalidDigit)
    else if n < 0x100000000 then .ok ()
    else .error (.number .tooLarge)

/-- The number with a point or an exponent at the front: whether it has a minus sign, and its
text. -/
def fractionAhead? : List Token → Option (Bool × String)
  | .literal s :: _ =>
    if Literal.isNumber s && (Literal.integer? s).isNone then some (false, s) else none
  | .sign '-' _ :: .literal s :: _ =>
    if Literal.isNumber s && (Literal.integer? s).isNone then some (true, s) else none
  | _ => none

end Expression

namespace Grammar

open Reader

/-- What follows an operator that binds so strongly, with the operators after it that bind more
strongly. -/
def rightOperand (g : Grammar) (structs : Bool) (p : Precedence) : Reader Unit := do
  let _ ← loop (← g.operand structs) fun right => do
    let ts ← ahead
    let next := Expression.precedenceAhead ts
    if p.rank < next.rank || (next = p && p = .assign) then
      let right ← g.operations structs next right
      pure (right, (← ahead).length != ts.length)
    else pure (right, false)

/-- The limit of a range, which may be left out unless the range holds it. -/
def rangeLimit (g : Grammar) (structs isClosed : Bool) : Reader Unit := do
  if isClosed || !Expression.atRangeEnd structs (← ahead) then g.rightOperand structs .range

def rangeTail (g : Grammar) (structs : Bool) : Reader Unit := do
  g.rangeLimit structs (← rangeOperator false)

def conversion (g : Grammar) : Reader Unit := do
  word "as"
  let _ ← g.type false
  match Expression.afterConversion? (← ahead) with
  | some what => refuse (.afterConversion what)
  | none => pure ()

/-- The operators after an operand that bind as strongly at least, and what follows them. -/
def readOperations (g : Grammar) (structs : Bool) (base : Precedence) (left : Expression) :
    Reader Expression :=
  loop left fun left => do
    let ts ← ahead
    if left = .range then pure (left, false)
    else
      match Expression.operatorAhead? ts with
      | some (operator, p) =>
        if p.rank < base.rank then pure (left, false)
        else if p = .compare && left = .comparison then refuse .comparisonChain
        else
          sign operator
          g.rightOperand structs p
          pure (if p = .compare then .comparison else .other, true)
      | none =>
        if base.rank ≤ Precedence.assign.rank && Expression.atAssignment ts then
          sign "="
          g.rightOperand structs .assign
          pure (.other, true)
        else if base.rank ≤ Precedence.range.rank && atSign ".." ts then
          g.rangeTail structs
          pure (.range, true)
        else if base.rank ≤ Precedence.conversion.rank && atWord "as" ts then
          g.conversion
          pure (.other, true)
        else pure (left, false)

end Grammar

end DuplexRpc.Declaration

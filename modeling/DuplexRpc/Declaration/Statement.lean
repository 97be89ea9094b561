import DuplexRpc.Declaration.Expression.Atom

/-!
Reading the statements of a block: bindings, items, calls of what is expanded, and expressions. An
expression that does not end with a block needs a semicolon, unless it is the last statement.
-/

namespace DuplexRpc.Declaration

namespace Statement

/-- Tokens that were read end with a brace. -/
def endsWithBrace (before after : List Token) : Bool :=
  match (before.take (before.length - after.length)).getLast? with
  | some (.group .brace _) => true
  | _ => false

/-- What is expanded stands here as an item: a name follows the exclamation mark. -/
def isExpandedItem (afterPath : List Token) : Bool :=
  atSign "!" afterPath && (atIdent (afterPath.drop 1) || atWord "try" (afterPath.drop 1))

/-- What is expanded stands here as a statement of its own: braces end it. -/
def isExpandedStatement (afterPath : List Token) : Bool :=
  let rest := afterPath.drop 2
  atSign "!" afterPath && atGroup .brace (afterPath.drop 1) && !(atDot rest || atSign "?" rest)

/-- A static item starts here, rather than a closure. -/
def atStatic (ts : List Token) : Bool :=
  let second := ts.drop 1
  atWord "static" ts && (atWord "mut" second || atIdent second)

/-- A constant or a constant function starts here, rather than a block or a closure. -/
def atConst (ts : List Token) : Bool :=
  let second := ts.drop 1
  let third := ts.drop 2
  atWord "const" ts &&
    !(atGroup .brace second || atWordOf ["static", "move"] second || atSign "|" second ||
      (atWord "async" second && !atWordOf ["unsafe", "extern", "fn"] third))

def atItem (ts : List Token) : Bool :=
  let second := ts.drop 1
  atWordOf ["pub", "extern", "use", "fn", "mod", "type", "struct", "enum", "trait", "impl",
      "macro"] ts ||
    (atWord "crate" ts && !atSign "::" second) || atStatic ts || atConst ts ||
    (atWord "unsafe" ts && !atGroup .brace second) ||
    (atWord "async" ts && atWordOf ["unsafe", "extern", "fn"] second) ||
    (atWord "union" ts && atIdent second) ||
    (atWord "auto" ts && atWord "trait" second) ||
    (atWord "default" ts && atWordOf ["unsafe", "impl"] second)

end Statement

namespace Grammar

open Reader

/-- A binding, which may have another block for what does not match. -/
def bindingStatement (g : Grammar) : Reader Unit := do
  word "let"
  let _ ← g.pattern
  if ← skipSign ":" then
    let _ ← g.type true
  if ← skipSign "=" then
    let before ← ahead
    let _ ← g.expression true
    let after ← ahead
    if !Statement.endsWithBrace before after && atWord "else" after then
      take
      g.block
  sign ";"

/-- A call of something that is expanded, as a statement of its own. -/
def expandedStatement : Reader Unit := do
  let _ ← plainPath
  sign "!"
  let _ ← anyGroup
  let _ ← skipSign ";"

/-- A statement: whether it needs a semicolon that it lacks. -/
def statement (g : Grammar) : Reader Bool := do
  let _ ← g.outerAttributes
  let afterPath := (← beyond? plainPath).getD []
  let ts ← ahead
  if !Statement.isExpandedItem afterPath && Statement.isExpandedStatement afterPath then
    expandedStatement
    pure false
  else if atWord "let" ts then
    g.bindingStatement
    pure false
  else if Statement.atItem ts || Statement.isExpandedItem afterPath then
    g.item
    pure false
  else
    let e ← g.leading
    if ← skipSign ";" then pure false
    else pure (e != .block && e != .expanded true)

def readStatements (g : Grammar) : Reader Unit :=
  loop () fun () => do
    let _ ← manyWhile (atSign ";") take
    if ← isAhead List.isEmpty then pure ((), false)
    else
      let lacksEnd ← g.statement
      if ← isAhead List.isEmpty then pure ((), false)
      else if lacksEnd then throw .unendedStatement
      else pure ((), true)

end Grammar

end DuplexRpc.Declaration

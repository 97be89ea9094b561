import DuplexRpc.Declaration.Literal
import DuplexRpc.Declaration.Refusal

/-!
Reading tokens one after the other. A reader takes tokens from the front and keeps the text of what
it took; what a group holds is read by itself. A reading as a whole is refused where tokens are left
at the end of a group, or at the end of all, but only once everything else has been read.
-/

namespace DuplexRpc.Declaration

/-- What reading comes to: something, or why it is refused. -/
abbrev Reading :=
  Except Refusal

/-! ### What stands at the front -/

def keywords : List String :=
  ["_", "abstract", "as", "async", "await", "become", "box", "break", "const", "continue", "crate",
    "do", "dyn", "else", "enum", "extern", "false", "final", "fn", "for", "if", "impl", "in",
    "let", "loop", "macro", "match", "mod", "move", "mut", "override", "priv", "pub", "ref",
    "return", "Self", "self", "static", "struct", "super", "trait", "true", "try", "type",
    "typeof", "unsafe", "unsized", "use", "virtual", "where", "while", "yield"]

def atWord (w : String) : List Token → Bool
  | .word w' :: _ => w == w'
  | _ => false

/-- One of the words stands at the front. -/
def atWordOf (ws : List String) : List Token → Bool
  | .word w :: _ => ws.contains w
  | _ => false

/-- A word stands at the front, be it a keyword or not. -/
def atAnyWord : List Token → Bool
  | .word _ :: _ => true
  | _ => false

def atIdent : List Token → Bool
  | .word w :: _ => !keywords.contains w
  | _ => false

def atLifetime : List Token → Bool
  | .lifetime _ :: _ => true
  | _ => false

def atGroup (d : Delimiter) : List Token → Bool
  | .group d' _ :: _ => d == d'
  | _ => false

/-- The tokens after the characters of an operator, none where another stands at the front. -/
def afterSign? : List Char → List Token → Option (List Token)
  | [], ts => some ts
  | [c], .sign c' _ :: ts => if c = c' then some ts else none
  | c :: cs, .sign c' joint :: ts => if c = c' ∧ joint then afterSign? cs ts else none
  | _, _ => none

/-- The operator stands at the front, perhaps as the start of a longer one. -/
def atSign (s : String) (ts : List Token) : Bool :=
  (afterSign? s.toList ts).isSome

/-- One of the operators stands at the front. -/
def atSignOf (signs : List String) (ts : List Token) : Bool :=
  signs.any (atSign · ts)

/-- A colon stands at the front that is not the first half of a double one. -/
def atColon (ts : List Token) : Bool :=
  atSign ":" ts && !atSign "::" ts

/-- A dot stands at the front that is not the start of a range. -/
def atDot (ts : List Token) : Bool :=
  atSign "." ts && !atSign ".." ts

/-- How many tokens a literal at the front has, none where there is no literal. A number may have a
minus sign. -/
def literalSize : List Token → Nat
  | .literal _ :: _ => 1
  | .word w :: _ => if w = "true" ∨ w = "false" then 1 else 0
  | .sign '-' _ :: .literal s :: _ => if Literal.isNumber s then 2 else 0
  | _ => 0

def atLiteral (ts : List Token) : Bool :=
  literalSize ts != 0

def stringAhead? : List Token → Option String
  | .literal s :: _ => Literal.string? s
  | _ => none

/-- The integer literal at the front: whether it has a minus sign, its number, and whether it has a
suffix. -/
def integerAhead? : List Token → Option (Bool × Nat × Bool)
  | .literal s :: _ => (Literal.integer? s).map fun n => (false, n)
  | .sign '-' _ :: .literal s :: _ => (Literal.integer? s).map fun n => (true, n)
  | _ => none

/-! ### Readers -/

/-- What a reader works on. -/
structure ReadState where
  /-- The tokens that are left. -/
  rest : List Token
  /-- The text of what was read. -/
  text : String := ""
  /-- What closes the first group in which tokens were left. -/
  leftover : Option Delimiter := none

/-- A reader of tokens. -/
abbrev Reader :=
  StateT ReadState Reading

namespace Reader

def ahead : Reader (List Token) := do
  pure (← get).rest

/-- A test of the tokens that are left. -/
def isAhead (p : List Token → Bool) : Reader Bool := do
  pure (p (← ahead))

def take : Reader Unit :=
  modify fun s =>
    match s.rest with
    | [] => s
    | t :: rest => { s with rest, text := s.text ++ t.text }

def takeMany : Nat → Reader Unit
  | 0 => pure ()
  | n + 1 => do
    take
    takeMany n

/-- Something else is missing at the front. -/
def wanted {α : Type} (what : String) : Reader α := do
  throw (.wanted what (← ahead).isEmpty)

/-- One of several things is missing at the front. -/
def wantedOneOf {α : Type} (what : List String) : Reader α :=
  match what with
  | [] => do throw (.unexpected (← ahead).isEmpty)
  | [a] => wanted a
  | [a, b] => wanted (a ++ " or " ++ b)
  | what => wanted ("one of: " ++ ", ".intercalate what)

/-- What was read is not allowed where it stands. -/
def refuse {α : Type} (what : Misplaced) : Reader α :=
  throw (.misplaced what)

def word (w : String) : Reader Unit := do
  if atWord w (← ahead) then take else wanted ("`" ++ w ++ "`")

/-- A keyword that may be left out: whether it is there. -/
def skipWord (w : String) : Reader Bool := do
  let found ← isAhead (atWord w)
  if found then take
  pure found

def anyWord : Reader String := do
  match ← ahead with
  | .word w :: _ => do
    take
    pure w
  | _ => wanted "ident"

def ident : Reader String := do
  match ← ahead with
  | .word w :: _ =>
    if keywords.contains w then throw (.keyword w)
    else do
      take
      pure w
  | _ => wanted "identifier"

def lifetime : Reader String := do
  match ← ahead with
  | .lifetime name :: _ => do
    take
    pure name
  | _ => wanted "lifetime"

/-- A lifetime that may be left out; its name is empty if it is. -/
def skipLifetime : Reader String := do
  if atLifetime (← ahead) then lifetime else pure ""

def sign (s : String) : Reader Unit := do
  if atSign s (← ahead) then takeMany s.length else throw (.sign s)

/-- An operator that may be left out: whether it is there. -/
def skipSign (s : String) : Reader Bool := do
  let found ← isAhead (atSign s)
  if found then takeMany s.length
  pure found

def literal : Reader Unit := do
  match literalSize (← ahead) with
  | 0 => wanted "literal"
  | n => takeMany n

/-- A group of any kind, whatever it holds: its delimiters. -/
def anyGroup : Reader Delimiter := do
  match ← ahead with
  | .group d _ :: _ => do
    take
    pure d
  | _ => wanted "delimiter"

/-- Notes that tokens were left in a group. -/
def note (d : Delimiter) : Reader Unit :=
  modify fun s => { s with leftover := s.leftover.or (some d) }

/-- Reads a group and then what follows it. Tokens that are left in the group are noted last. -/
def enclosed {α β : Type} (d : Delimiter) (inside : Reader α) (after : α → Reader β) :
    Reader β := do
  match ← ahead with
  | .group d' content :: rest =>
    if d = d' then do
      modify fun s => { s with rest := content, text := s.text ++ String.singleton d.opening }
      let a ← inside
      let left ← ahead
      modify fun s => { s with rest, text := s.text ++ String.singleton d.closing }
      let b ← after a
      unless left.isEmpty do note d
      pure b
    else wanted d.name
  | _ => wanted d.name

def within {α : Type} (d : Delimiter) (inside : Reader α) : Reader α :=
  enclosed d inside pure

/-- Reads something if it is there; if not, nothing is taken. -/
def attempt {α : Type} (p : Reader α) : Reader (Option α) := fun s =>
  match p s with
  | .ok (a, s') => .ok (some a, s')
  | .error _ => .ok (none, s)

/-- The tokens after something, if it is there. Nothing is taken. -/
def beyond? {α : Type} (p : Reader α) : Reader (Option (List Token)) := fun s =>
  match p s with
  | .ok (_, s') => .ok (some s'.rest, s)
  | .error _ => .ok (none, s)

/-- Reads something, and gives its text too. -/
def captured {α : Type} (p : Reader α) : Reader (α × String) := do
  let before := (← get).text
  modify fun s => { s with text := "" }
  let a ← p
  let text := (← get).text
  modify fun s => { s with text := before ++ text }
  pure (a, text)

/-- Reads something whose text is given by what it is, rather than by how it is written. -/
def textedBy {α : Type} (text : α → String) (p : Reader α) : Reader α := do
  let before := (← get).text
  let a ← p
  modify fun s => { s with text := before ++ text a }
  pure a

/-- Repeats a step for as long as it asks for more, so many times at most. -/
def repeatUpTo {σ : Type} (step : σ → Reader (σ × Bool)) : (rounds : Nat) → σ → Reader σ
  | 0, s => pure s
  | rounds + 1, s => do
    let (s, more) ← step s
    if more then repeatUpTo step rounds s else pure s

/-- Repeats a step for as long as it asks for more. A step that does takes a token at least. -/
def loop {σ : Type} (s : σ) (step : σ → Reader (σ × Bool)) : Reader σ := do
  repeatUpTo step ((← ahead).length + 1) s

/-- Reads something for as long as a test of the tokens that are left holds. -/
def manyWhile {α : Type} (p : List Token → Bool) (one : Reader α) : Reader (List α) :=
  loop [] fun found => do
    if ← isAhead p then pure (found ++ [← one], true) else pure (found, false)

/-- Things with an operator between them, up to where a test holds: each, and whether the operator
follows it. -/
def separated {α : Type} (ends : List Token → Bool) (separator : String) (one : Reader α) :
    Reader (List (α × Bool)) :=
  loop [] fun found => do
    if ← isAhead ends then pure (found, false)
    else
      let a ← one
      if ← isAhead ends then pure (found ++ [(a, false)], false)
      else
        sign separator
        pure (found ++ [(a, true)], true)

/-- Things with commas between them, up to the end of a group. -/
def listed {α : Type} (one : Reader α) : Reader (List α) := do
  pure ((← separated List.isEmpty "," one).map (·.1))

/-- Things with an operator between them, for as long as the operator follows and a test does not
hold. -/
def joined {α : Type} (ends : List Token → Bool) (separator : String) (one : Reader α) :
    Reader Unit :=
  loop () fun () => do
    if ← isAhead ends then pure ((), false)
    else
      let _ ← one
      pure ((), ← skipSign separator)

def run {α : Type} (p : Reader α) (ts : List Token) : Reading α :=
  match StateT.run p { rest := ts } with
  | .error refusal => .error refusal
  | .ok (a, s) =>
    if s.leftover.isSome then .error (.leftover s.leftover)
    else if s.rest.isEmpty then .ok a
    else .error (.leftover none)

/-! ### Plain paths -/

/-- A plain path goes on here with a word. -/
def atPlainSegment (ts : List Token) : Bool :=
  atIdent ts || atWordOf ["super", "self", "Self", "crate"] ts

/-- A path without arguments: its text. -/
def plainPath : Reader String := do
  let (_, text) ← captured do
    let _ ← skipSign "::"
    if !(← isAhead atPlainSegment) then
      let _ ← ident
    loop () fun () => do
      if ← isAhead atPlainSegment then
        let _ ← anyWord
        pure ((), ← skipSign "::")
      else wanted "path segment after `::`"
  pure text

end Reader

end DuplexRpc.Declaration

import DuplexRpc.Declaration.Lexeme.Quotation
import DuplexRpc.Declaration.Token
import DuplexRpc.Text.Quoted

/-!
From the text of a declaration to its tokens: the text is cut into lexemes, and the lexemes between
two delimiters that match become a group. Comments vanish, save for those that document something:
they stand for an attribute.
-/

namespace DuplexRpc.Declaration

/-- A piece of a text. -/
inductive Lexeme where
  | token (t : Token)
  | opening (d : Delimiter)
  | closing (d : Delimiter)

namespace Lexeme

/-- A character between tokens: white space, or a mark of the direction of writing. -/
def isBetween (c : Char) : Bool :=
  Text.isBlank c || c == '\u200e' || c == '\u200f'

def isSign (c : Char) : Bool :=
  "~!@#$%^&*-=+|;:,<.>/?\x27".toList.contains c

def startsComment : List Char → Bool
  | '/' :: '/' :: _ | '/' :: '*' :: _ => true
  | _ => false

def isJoint : List Char → Bool
  | c :: rest => isSign c && !startsComment (c :: rest)
  | [] => false

def opens? (c : Char) : Option Delimiter :=
  [Delimiter.paren, .bracket, .brace].find? (·.opening == c)

def closes? (c : Char) : Option Delimiter :=
  [Delimiter.paren, .bracket, .brace].find? (·.closing == c)

/-- The rest of a line without its end, and what follows from the line feed on. -/
def splitLine : List Char → List Char × List Char
  | [] => ([], [])
  | '\n' :: rest => ([], '\n' :: rest)
  | '\r' :: '\n' :: rest => ([], '\n' :: rest)
  | c :: rest =>
    let (line, rest) := splitLine rest
    (c :: line, rest)

/-- The rest of a comment that may hold others, and what follows. -/
def splitComment : (depth : Nat) → List Char → Option (List Char × List Char)
  | 0, rest => some ([], rest)
  | _, [] => none
  | depth + 1, '*' :: '/' :: rest =>
    (splitComment depth rest).map fun (a, b) => ('*' :: '/' :: a, b)
  | depth + 1, '/' :: '*' :: rest =>
    (splitComment (depth + 2) rest).map fun (a, b) => ('/' :: '*' :: a, b)
  | depth + 1, c :: rest => (splitComment (depth + 1) rest).map fun (a, b) => (c :: a, b)

/-- A carriage return stands in the text without a line feed after it. -/
def hasBareReturn : List Char → Bool
  | '\r' :: '\n' :: rest => hasBareReturn rest
  | '\r' :: _ => true
  | _ :: rest => hasBareReturn rest
  | [] => false

/-- The attribute that documentation stands for, which belongs to what encloses it if it is an
inner one. -/
def documentation (isInner : Bool) (text : List Char) : Option (List Lexeme) :=
  if hasBareReturn text then none
  else
    let content : List Token :=
      [.word "doc", .sign '=' false, .literal (Text.quoted (String.ofList text))]
    some ([.token (.sign '#' false)] ++ (if isInner then [.token (.sign '!' false)] else []) ++
      [.token (.group .bracket content)])

/-- What a comment to the end of the line stands for, given what follows its two slashes. -/
def lineComment (cs : List Char) : Option (List Lexeme × List Char) :=
  let (line, rest) := splitLine cs
  let found :=
    match line with
    | '/' :: '/' :: _ => some []
    | '/' :: text => documentation false text
    | '!' :: text => documentation true text
    | _ => some []
  found.map (·, rest)

/-- What a comment between marks stands for, given what follows the first mark. -/
def blockComment (cs : List Char) : Option (List Lexeme × List Char) :=
  match splitComment 1 cs with
  | none => none
  | some (inside, rest) =>
    let found :=
      match inside with
      | '*' :: '*' :: _ | '*' :: '/' :: _ => some []
      | '*' :: text => documentation false text.dropLast.dropLast
      | '!' :: text => documentation true text.dropLast.dropLast
      | _ => some []
    found.map (·, rest)

/-- What an apostrophe starts that starts no character: a lifetime. Where a literal follows, the
apostrophe stands alone. -/
def apostrophe (rest : List Char) : Option (List Lexeme × List Char) :=
  match anyWord? rest with
  | none => none
  | some (name, after) =>
    let isRaw := ['r', '#'].isPrefixOf rest
    match after with
    | '\x27' :: _ => none
    | '#' :: _ => if isRaw then some ([.token (.lifetime ("\x27" ++ name))], after) else none
    | _ =>
      if (afterQuotation? rest).isSome then some ([.token (.sign '\x27' true)], rest)
      else (word? rest).map fun _ => ([.token (.lifetime ("\x27" ++ name))], after)

/-- The literal that stands for one that could not be read, which looks like an empty group. -/
def brokenLiteral : String :=
  "(/*ERROR*/)"

/-- The leaf at the front: a literal, an operator's character, or a word. -/
def leaf (cs : List Char) : Option (List Lexeme × List Char) :=
  match (afterQuotation? cs).or (afterNumber? cs) with
  | some rest =>
    some ([.token (.literal (String.ofList (cs.take (cs.length - rest.length))))], rest)
  | none =>
    match cs with
    | '\x27' :: rest => apostrophe rest
    | c :: rest =>
      if isSign c then some ([.token (.sign c (isJoint rest))], rest)
      else (word? cs).map fun (name, rest) => ([.token (.word name)], rest)
    | [] => none

/-- The lexemes at the front of a text, and what follows. -/
def next : List Char → Option (List Lexeme × List Char)
  | [] => some ([], [])
  | '/' :: '/' :: rest => lineComment rest
  | '/' :: '*' :: rest => blockComment rest
  | c :: rest =>
    if isBetween c then some ([], rest)
    else if brokenLiteral.toList.isPrefixOf (c :: rest) then
      some ([.token (.literal brokenLiteral)], (c :: rest).drop brokenLiteral.length)
    else
      match opens? c, closes? c with
      | some d, _ => some ([.opening d], rest)
      | none, some d => some ([.closing d], rest)
      | none, none => leaf (c :: rest)

/-- The lexemes of a text; each round takes a character at least. -/
def all : (rounds : Nat) → List Char → Option (List Lexeme)
  | _, [] => some []
  | 0, _ => none
  | rounds + 1, cs =>
    match next cs with
    | none => none
    | some (found, rest) => (all rounds rest).map (found ++ ·)

/-- Puts the lexemes between delimiters into groups. `outer` holds the groups that are open, with
the tokens before each; tokens are kept in reverse. -/
def nest : List Lexeme → (outer : List (Delimiter × List Token)) → List Token →
    Option (List Token)
  | [], [], tokens => some tokens.reverse
  | [], _ :: _, _ => none
  | .token t :: rest, outer, tokens => nest rest outer (t :: tokens)
  | .opening d :: rest, outer, tokens => nest rest ((d, tokens) :: outer) []
  | .closing _ :: _, [], _ => none
  | .closing d :: rest, (d', before) :: outer, tokens =>
    if d = d' then nest rest outer (.group d tokens.reverse :: before) else none

end Lexeme

/-- A text without a mark of its byte order at its start. -/
def withoutByteOrderMark : List Char → List Char
  | '\ufeff' :: rest => rest
  | cs => cs

/-- The tokens of a text, none where it cannot be cut into tokens. -/
def tokens? (s : String) : Option (List Token) :=
  let cs := withoutByteOrderMark s.toList
  (Lexeme.all cs.length cs).bind fun lexemes => Lexeme.nest lexemes [] []

end DuplexRpc.Declaration

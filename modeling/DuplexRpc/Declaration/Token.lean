import DuplexRpc.Text.Blank

/-!
Tokens of service declarations: the leaves that their text consists of, and groups of tokens between
delimiters.
-/

namespace DuplexRpc.Declaration

/-- What encloses a group. -/
inductive Delimiter where
  | paren
  | bracket
  | brace
deriving DecidableEq, Repr

namespace Delimiter

def opening : Delimiter → Char
  | .paren => '('
  | .bracket => '['
  | .brace => '\x7b'

def closing : Delimiter → Char
  | .paren => ')'
  | .bracket => ']'
  | .brace => '\x7d'

/-- The name of a group with these delimiters. -/
def name : Delimiter → String
  | .paren => "parentheses"
  | .bracket => "square brackets"
  | .brace => "curly braces"

end Delimiter

inductive Token where
  /-- An identifier or a keyword. -/
  | word (name : String)
  | lifetime (name : String)
  /-- A literal as it is written. -/
  | literal (text : String)
  /-- A character of an operator, which may belong together with the next one. -/
  | sign (c : Char) (joint : Bool)
  | group (delimiter : Delimiter) (inside : List Token)

def withoutBlanks (s : String) : String :=
  String.ofList (s.toList.filter fun c => !Text.isBlank c)

/-- A text without its spaces; other white space stays. -/
def withoutSpaces (s : String) : String :=
  String.ofList (s.toList.filter (· != ' '))

namespace Token

mutual

/-- The text of a token, with nothing between its parts. -/
def text : Token → String
  | .word name => name
  | .lifetime name => name
  | .literal s => s
  | .sign c _ => String.singleton c
  | .group d inside => String.singleton d.opening ++ texts inside ++ String.singleton d.closing

/-- The text of tokens, with nothing between them. -/
def texts : List Token → String
  | [] => ""
  | t :: ts => text t ++ texts ts

end

mutual

/-- How many tokens a token consists of. -/
def size : Token → Nat
  | .group _ inside => 1 + sizes inside
  | _ => 1

/-- How many tokens there are, those inside of groups included. -/
def sizes : List Token → Nat
  | [] => 0
  | t :: ts => size t + sizes ts

end

end Token

end DuplexRpc.Declaration

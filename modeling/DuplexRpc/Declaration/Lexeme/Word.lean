import DuplexRpc.Text.Identifier

/-!
Words in the text of a declaration: identifiers and keywords. A word that is written after `r#` is
an identifier even where it looks like a keyword.
-/

namespace DuplexRpc.Declaration.Lexeme

/-- The word at the front, and what follows it. -/
def plainWord? : List Char → Option (String × List Char)
  | c :: rest =>
    if Text.isIdentifierStart c then
      some (String.ofList (c :: rest.takeWhile Text.isIdentifierContinue),
        rest.dropWhile Text.isIdentifierContinue)
    else none
  | [] => none

/-- The words that stay keywords after `r#`. -/
def alwaysKeywords : List String :=
  ["_", "super", "self", "Self", "crate"]

/-- The word at the front, which may be written after `r#`, and what follows it. -/
def anyWord? : List Char → Option (String × List Char)
  | 'r' :: '#' :: rest =>
    match plainWord? rest with
    | some (name, rest) => if alwaysKeywords.contains name then none else some ("r#" ++ name, rest)
    | none => none
  | cs => plainWord? cs

/-- The letters before a quote or a number sign that start a literal rather than a word. -/
def literalStarts : List String :=
  ["r\"", "r#\"", "r##", "b\"", "b\x27", "br\"", "br#", "c\"", "cr\"", "cr#"]

/-- The word at the front, where no literal starts there, and what follows it. -/
def word? (cs : List Char) : Option (String × List Char) :=
  if literalStarts.any fun start => start.toList.isPrefixOf cs then none else anyWord? cs

/-- What follows the word at the front, if there is one. -/
def afterSuffix (cs : List Char) : List Char :=
  match plainWord? cs with
  | some (_, rest) => rest
  | none => cs

end DuplexRpc.Declaration.Lexeme

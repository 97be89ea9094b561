import DuplexRpc.Declaration.Lexeme.Number

/-!
Quotations in the text of a declaration: where a text, a byte text, a text for foreign functions, a
byte or a character that stands at the front ends. Texts are raw or have escapes, and each kind has
escapes and characters of its own. A line end is a line feed, with or without a carriage return.
-/

namespace DuplexRpc.Declaration.Lexeme

/-- The kinds of quoted texts. -/
inductive QuotationKind where
  | text
  /-- ASCII characters alone. -/
  | bytes
  /-- No character is zero. -/
  | foreign
deriving DecidableEq, Repr

/-- The character may stand in a text of the kind. -/
def QuotationKind.allows (kind : QuotationKind) (c : Char) : Bool :=
  match kind with
  | .text => true
  | .bytes => c.toNat < 128
  | .foreign => c != '\x00'

/-- The two digits may stand after a backslash and `x`. -/
def QuotationKind.allowsHex (kind : QuotationKind) (a b : Nat) : Bool :=
  match kind with
  | .text => a < 8
  | .bytes => true
  | .foreign => a != 0 || b != 0

/-- The code point that one to six digits up to a closing brace give, and the rest. -/
def codePoint? : (count value : Nat) → List Char → Option (Nat × List Char)
  | _, _, [] => none
  | count, value, c :: rest =>
    if c = '_' ∧ 0 < count then codePoint? count value rest
    else if c = '\x7d' ∧ 0 < count then some (value, rest)
    else
      match digit? c with
      | some d => if count = 6 then none else codePoint? (count + 1) (16 * value + d) rest
      | none => none

/-- The characters that stand for others after a backslash in any text. -/
def simpleEscapes : List Char :=
  ['n', 'r', 't', '\\', '\x27', '"']

/-- The rest after an escape, given what follows its backslash. -/
def afterEscape (kind : QuotationKind) : List Char → Option (List Char)
  | 'x' :: a :: b :: rest =>
    match digit? a, digit? b with
    | some m, some n => if kind.allowsHex m n then some rest else none
    | _, _ => none
  | 'u' :: '\x7b' :: rest =>
    match codePoint? 0 0 rest with
    | some (n, rest) =>
      if kind = .bytes ∨ ¬n.isValidChar ∨ (kind = .foreign ∧ n = 0) then none else some rest
    | none => none
  | c :: rest =>
    if simpleEscapes.contains c || (c == '0' && kind != .foreign) then some rest else none
  | [] => none

/-- The rest after blanks and line ends, none where there is nothing else. -/
def afterLineEnds : List Char → Option (List Char)
  | [] => none
  | '\r' :: '\n' :: rest => afterLineEnds rest
  | '\r' :: _ => none
  | c :: rest => if c = ' ' ∨ c = '\t' ∨ c = '\n' then afterLineEnds rest else some (c :: rest)

/-- The rest after an escape in a text, where a line end can be escaped too. -/
def afterTextEscape (kind : QuotationKind) : List Char → Option (List Char)
  | '\n' :: rest => afterLineEnds ('\n' :: rest)
  | '\r' :: rest => afterLineEnds ('\r' :: rest)
  | rest => afterEscape kind rest

/-- The rest after a text with escapes, given what follows its first quote. Each round takes a
character at least. -/
def afterText (kind : QuotationKind) : (rounds : Nat) → List Char → Option (List Char)
  | 0, _ => none
  | _, [] => none
  | _ + 1, '"' :: rest => some (afterSuffix rest)
  | rounds + 1, '\r' :: '\n' :: rest => afterText kind rounds rest
  | _, '\r' :: _ => none
  | rounds + 1, '\\' :: rest => (afterTextEscape kind rest).bind (afterText kind rounds)
  | rounds + 1, c :: rest => if kind.allows c then afterText kind rounds rest else none

/-- The rest after a raw text up to a quote with so many number signs. -/
def afterRawText (kind : QuotationKind) (hashes : Nat) : List Char → Option (List Char)
  | [] => none
  | '\r' :: '\n' :: rest => afterRawText kind hashes rest
  | '\r' :: _ => none
  | c :: rest =>
    if c = '"' ∧ rest.take hashes = List.replicate hashes '#' then
      some (afterSuffix (rest.drop hashes))
    else if kind.allows c then afterRawText kind hashes rest
    else none

/-- The rest after a raw text, given what follows its letters: at most 255 number signs and a
quote. -/
def afterHashes (kind : QuotationKind) (cs : List Char) : Option (List Char) :=
  let hashes := (cs.takeWhile (· == '#')).length
  match cs.drop hashes with
  | '"' :: rest => if hashes ≤ 255 then afterRawText kind hashes rest else none
  | _ => none

/-- The rest after a single character between apostrophes, given what follows the first one. -/
def afterCharacter (kind : QuotationKind) (cs : List Char) : Option (List Char) :=
  let found :=
    match cs with
    | '\\' :: rest => afterEscape kind rest
    | c :: rest => if kind.allows c then some rest else none
    | [] => none
  match found with
  | some ('\x27' :: rest) => some (afterSuffix rest)
  | _ => none

def afterQuotation? : List Char → Option (List Char)
  | '"' :: rest => afterText .text rest.length rest
  | 'r' :: rest => afterHashes .text rest
  | 'b' :: '"' :: rest => afterText .bytes rest.length rest
  | 'b' :: 'r' :: rest => afterHashes .bytes rest
  | 'b' :: '\x27' :: rest => afterCharacter .bytes rest
  | 'c' :: '"' :: rest => afterText .foreign rest.length rest
  | 'c' :: 'r' :: rest => afterHashes .foreign rest
  | '\x27' :: rest => afterCharacter .text rest
  | _ => none

end DuplexRpc.Declaration.Lexeme

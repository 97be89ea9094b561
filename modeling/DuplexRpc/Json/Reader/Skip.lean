import DuplexRpc.Json.Reader.Value

/-!
Passing over a value whose content does not matter. Its form is checked, but neither its depth nor
its numbers and escapes beyond their form.
-/

namespace DuplexRpc.Json

/-- Passes over a string after its opening quote. -/
def skipString : Reader Unit
  | [] => faultAt .endInString []
  | b :: bytes =>
    if b = ascii '"' then .ok ((), bytes)
    else if b = ascii '\\' then
      match bytes with
      | [] => faultAt .endInString []
      | c :: bytes =>
        if (simpleEscape? c).isSome then skipString bytes
        else if c = ascii 'u' then
          match _h : readCodeUnit bytes with
          | .error e => .error e
          | .ok (_, rest) => skipString rest
        else faultAt .invalidEscape bytes
    else if b < 0x20 then faultAt .controlCharacter (b :: bytes)
    else skipString bytes
termination_by bytes => bytes.length
decreasing_by
  · simp only [List.length_cons]; omega
  · have := readCodeUnit_length ‹_›
    simp only [List.length_cons]
    omega
  · simp only [List.length_cons]; omega

/-- Passes over the exponent of a number after its mark. -/
def skipExponent : Reader Unit := fun bytes =>
  let bytes :=
    match bytes with
    | [] => []
    | b :: rest => if b = ascii '+' ∨ b = ascii '-' then rest else b :: rest
  match bytes with
  | [] => faultAt .invalidNumber []
  | b :: rest => if isDigit b then .ok ((), skipDigits rest) else faultAt .invalidNumber rest

/-- Passes over a fraction after its point. -/
def skipFraction : Reader Unit := fun bytes =>
  if startsWithDigit bytes then
    let rest := skipDigits bytes
    if startsWithExponent rest then skipExponent (rest.drop 1) else .ok ((), rest)
  else faultOn .invalidNumber bytes

/-- Passes over a number after its sign. -/
def skipNumber : Reader Unit := fun bytes =>
  match bytes with
  | [] => faultAt .invalidNumber []
  | b :: rest =>
    if b = ascii '0' ∧ startsWithDigit rest then faultOn .invalidNumber rest
    else if isDigit b then
      let rest := skipDigits rest
      match rest with
      | [] => .ok ((), [])
      | c :: rest' =>
        if c = ascii '.' then skipFraction rest'
        else if c = ascii 'e' ∨ c = ascii 'E' then skipExponent rest'
        else .ok ((), rest)
    else faultAt .invalidNumber rest

/-- What is open around the next byte. -/
inductive Bracket where
  | list
  | object
deriving DecidableEq, Repr

def Bracket.closing : Bracket → UInt8
  | .list => ascii ']'
  | .object => ascii '\x7d'

/-- The fault of a text that ends inside a bracket. -/
def Bracket.endFault : Bracket → SyntaxFault
  | .list => .endInList
  | .object => .endInObject

/-- The fault of anything but a comma or the closing byte after a value. -/
def Bracket.commaFault : Bracket → SyntaxFault
  | .list => .expectedCommaOrBracket
  | .object => .expectedCommaOrBrace

/-- Passes over a name and its colon inside an object; nothing stands there in a list. -/
def skipName (b : Bracket) : Reader Unit := fun bytes =>
  match b with
  | .list => .ok ((), bytes)
  | .object =>
    match skipSpace bytes with
    | [] => faultAt .endInObject []
    | c :: rest =>
      if c = ascii '"' then
        match skipString rest with
        | .error e => .error e
        | .ok (_, rest) => readColon rest
      else faultOn .keyNotString (c :: rest)

/-- Passes over a value that is neither a list nor an object, or over the byte that opens one. -/
def skipLeaf : Reader (Option Bracket) := fun bytes =>
  match skipSpace bytes with
  | [] => faultAt .endInValue []
  | b :: rest =>
    if b = ascii 'n' then readNamed ['u', 'l', 'l'] none rest
    else if b = ascii 't' then readNamed ['r', 'u', 'e'] none rest
    else if b = ascii 'f' then readNamed ['a', 'l', 's', 'e'] none rest
    else if b = ascii '-' then mapReader (fun _ => none) skipNumber rest
    else if isDigit b then mapReader (fun _ => none) skipNumber (b :: rest)
    else if b = ascii '"' then mapReader (fun _ => none) skipString rest
    else if b = ascii '[' then .ok (some .list, rest)
    else if b = ascii '\x7b' then .ok (some .object, rest)
    else faultOn .expectedValue (b :: rest)

/-- Closes what can be closed after a value, until a comma announces another value. Gives the
brackets that are still open. -/
def closeBrackets : List Bracket → (comma : Bool) → (fuel : Nat) → Reader (List Bracket)
  | [], _, _, bytes => .ok ([], bytes)
  | _, _, 0, _ => faultAt .endInValue []
  | b :: outer, comma, fuel + 1, bytes =>
    match skipSpace bytes with
    | [] => faultAt b.endFault []
    | c :: rest =>
      if comma ∧ c = ascii ',' then .ok (b :: outer, rest)
      else if c = b.closing then closeBrackets outer true fuel rest
      else if comma then faultOn b.commaFault (c :: rest)
      else .ok (b :: outer, c :: rest)

/-- Passes over values inside open brackets until none is open. `fuel` bounds their number. -/
def skipInside (openBrackets : List Bracket) : (fuel : Nat) → Reader Unit
  | 0, _ => faultAt .endInValue []
  | fuel + 1, bytes =>
    match skipLeaf bytes with
    | .error e => .error e
    | .ok (opened, rest) =>
      let (brackets, comma) :=
        match opened with
        | some b => (b :: openBrackets, false)
        | none => (openBrackets, true)
      match closeBrackets brackets comma (rest.length + 1) rest with
      | .error e => .error e
      | .ok ([], rest) => .ok ((), rest)
      | .ok (b :: outer, rest) =>
        match skipName b rest with
        | .error e => .error e
        | .ok (_, rest) => skipInside (b :: outer) fuel rest

def skipValue : Reader Unit := fun bytes =>
  skipInside [] (bytes.length + 1) bytes

end DuplexRpc.Json

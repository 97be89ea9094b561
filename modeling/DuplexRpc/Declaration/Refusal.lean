import DuplexRpc.Declaration.Token
import DuplexRpc.Text.Quoted

/-!
Why a service declaration is refused: a text that is no declaration, options that do not exist or
have the wrong value, and methods that no service can have.
-/

namespace DuplexRpc.Declaration

/-- Why a number is none of the wanted type. -/
inductive NumberFault where
  | tooLarge
  | tooSmall
  | invalidDigit
deriving DecidableEq, Repr

/-- What is well formed but not allowed where it stands. -/
inductive Misplaced where
  /-- An object type of lifetimes alone. -/
  | objectWithoutTrait
  /-- A type that implements nothing, of lifetimes and captures alone. -/
  | opaqueWithoutTrait
  /-- A list of what a type captures. -/
  | capture
  /-- Lifetimes that a bound is generic in, together with a question mark. -/
  | binderWithQuestion
  /-- A bound that holds in constants if its context does. -/
  | conditionalBound
  /-- A bound that holds in constants. -/
  | constantBound
  /-- Parameters of a list of conditions. -/
  | whereParameters
  /-- An attribute as the value of another one. -/
  | nestedAttribute
  /-- A comparison of a comparison. -/
  | comparisonChain
  /-- A part of an expression after a conversion, with its name. -/
  | afterConversion (what : String)
  /-- A range without an end among the items of a slice. -/
  | openRangeInSlice
  /-- A label of a loop that belongs to a jump. -/
  | jumpLabel
  /-- An attribute of a range without a start. -/
  | attributeOfRange
  /-- An implementation of nothing for a type, with an exclamation mark. -/
  | negativeImplementation
deriving DecidableEq, Repr

/-- Why a declaration is refused. -/
inductive Refusal where
  /-- The text cannot be cut into tokens. -/
  | noTokens
  /-- An operator is missing. -/
  | sign (text : String)
  /-- Something else is missing, perhaps because a group or the text is at its end. -/
  | wanted (what : String) (atEnd : Bool)
  /-- Nothing can stand here, or nothing can end here. -/
  | unexpected (atEnd : Bool)
  /-- A keyword stands where an identifier should. -/
  | keyword (name : String)
  /-- Something is left at the end of a group or of the text. -/
  | leftover (group : Option Delimiter)
  /-- A statement does not end where another one starts. -/
  | unendedStatement
  | misplaced (what : Misplaced)
  | literalAsOption
  | tokenAsOption
  | receiverNotFirst
  | receiverTwice
  /-- Options without a group, in an attribute that may belong to what encloses it. -/
  | attributeWithoutGroup (name : String) (isInner : Bool)
  | attributeWithValue (name : String) (isInner : Bool)
  | number (fault : NumberFault)
  | serviceOption
  | methodOption
  | packing
  | notMethod
  | reserved (ident : String)
  | generic
  | inputs
  | argument
  | noResult
  | result
  /-- The name of the descriptor is no identifier. -/
  | invalidName (name : String)
deriving DecidableEq, Repr

def NumberFault.message : NumberFault → String
  | .tooLarge => "number too large to fit in target type"
  | .tooSmall => "number too small to fit in target type"
  | .invalidDigit => "invalid digit found in string"

/-- The wording for what is not allowed where it stands. -/
def Misplaced.message : Misplaced → String
  | .objectWithoutTrait => "at least one trait is required for an object type"
  | .opaqueWithoutTrait => "at least one trait must be specified"
  | .capture => "`use<...>` precise capturing syntax is not allowed here"
  | .binderWithQuestion => "`for<...>` binder not allowed with `?` trait polarity modifier"
  | .conditionalBound => "`[const]` is not allowed here"
  | .constantBound => "`const` is not allowed here"
  | .whereParameters => "generic parameters on `where` clauses are reserved for future use"
  | .nestedAttribute => "unexpected attribute inside of attribute"
  | .comparisonChain => "comparison operators cannot be chained"
  | .afterConversion what => s!"casts cannot be followed by {what}"
  | .openRangeInSlice =>
    "range pattern is not allowed unparenthesized inside slice pattern"
  | .jumpLabel => "parentheses required"
  | .attributeOfRange =>
    "attributes are not allowed on range expressions starting with `..`"
  | .negativeImplementation => "inherent impls cannot be negative"

def Delimiter.closingText (d : Delimiter) : String :=
  "`" ++ String.singleton d.closing ++ "`"

/-- An attribute with a group, in short. -/
def attributeForm (name : String) (isInner : Bool) : String :=
  (if isInner then "#![" else "#[") ++ name ++ "(...)]"

namespace Refusal

def message : Refusal → String
  | .noTokens => "cannot parse string into token stream"
  | .sign text => s!"expected `{text}`"
  | .wanted what true => s!"unexpected end of input, expected {what}"
  | .wanted what false => s!"expected {what}"
  | .unexpected true => "unexpected end of input"
  | .unexpected false => "unexpected token"
  | .keyword name => s!"expected identifier, found keyword `{name}`"
  | .leftover none => "unexpected token"
  | .leftover (some d) => s!"unexpected token, expected {d.closingText}"
  | .unendedStatement => "unexpected token, expected `;`"
  | .misplaced what => what.message
  | .literalAsOption => "unexpected literal in nested attribute, expected ident"
  | .tokenAsOption => "unexpected token in nested attribute, expected ident"
  | .receiverNotFirst => "unexpected method receiver"
  | .receiverTwice => "unexpected second method receiver"
  | .attributeWithoutGroup name isInner =>
    s!"expected attribute arguments in parentheses: {attributeForm name isInner}"
  | .attributeWithValue name isInner =>
    s!"expected parentheses: {attributeForm name isInner}"
  | .number fault => fault.message
  | .serviceOption => "expected `base_path` or `timeout_ms`"
  | .methodOption => "unsupported jrpc method option"
  | .packing => "expected `single`, `positional` or `named`"
  | .notMethod => "a service trait may only contain methods"
  | .reserved ident => s!"`{ident}` is reserved"
  | .generic => "service methods cannot be generic"
  | .inputs => "expected `fn method(&self, ctx: &Context, args..)`"
  | .argument => "service arguments must be identifiers or `_`"
  | .noResult => "service methods must return `Result<T>` or `ResponseFuture<T>`"
  | .result =>
    "expected `async fn .. -> Result<T>`, `fn .. -> ResponseFuture<T>`, " ++
      "or a notification `fn .. -> Result<()>`"
  | .invalidName name => Text.quoted name ++ " is not a valid Ident"

/-- The refusal stops everything, other than one that belongs to a place in the text. -/
def isAbort : Refusal → Bool
  | .invalidName _ => true
  | _ => false

end Refusal

end DuplexRpc.Declaration

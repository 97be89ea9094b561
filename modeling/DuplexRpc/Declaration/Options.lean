import DuplexRpc.Declaration.Reader
import DuplexRpc.Params.Packing

/-!
The options of a declaration: of the service as a whole, and of its methods. Options are separated
by commas; of an option given twice the later value counts.
-/

namespace DuplexRpc.Declaration

/-- Options of a service. -/
structure ServiceOptions where
  basePath : Option String := none
  timeoutMs : Option UInt64 := none
deriving DecidableEq, Repr

/-- Options of a method. -/
structure MethodOptions where
  name : Option String := none
  packing : Option Packing := none
  isNotification : Bool := false
  timeoutMs : Option Int64 := none
deriving DecidableEq, Repr

namespace Reader

/-- A string literal: the text that it stands for. -/
def text : Reader String := do
  match stringAhead? (← ahead) with
  | some s => do
    take
    pure s
  | none => wanted "string literal"

/-- An integer literal, which may have a minus sign: whether it has, and the number. -/
def integer : Reader (Bool × Nat) := do
  let ts ← ahead
  match integerAhead? ts with
  | some (isNegative, n, _) => do
    takeMany (literalSize ts)
    pure (isNegative, n)
  | none => wanted "integer literal"

/-- The name of an option, which may be a path. Keywords count as names here. -/
def optionName : Reader String := do
  let (_, name) ← captured do
    let _ ← skipSign "::"
    let ts ← ahead
    if !atAnyWord ts then
      if ts.isEmpty then wanted "nested attribute"
      else throw (if atLiteral ts then .literalAsOption else .tokenAsOption)
    take
    let _ ← manyWhile (atSign "::") do
      sign "::"
      anyWord
  pure name

/-- Options with commas between them; each one changes what was read so far. -/
def options {σ : Type} (s : σ) (one : String → σ → Reader σ) : Reader σ :=
  loop s fun s => do
    if ← isAhead List.isEmpty then pure (s, false)
    else
      let s ← one (← optionName) s
      if ← isAhead List.isEmpty then pure (s, false)
      else
        sign ","
        pure (s, true)

end Reader

/-- A number as an unsigned integer of 64 bits. -/
def unsigned (number : Bool × Nat) : Reading UInt64 :=
  if number.1 then .error (.number .invalidDigit)
  else if number.2 < 0x10000000000000000 then .ok (UInt64.ofNat number.2)
  else .error (.number .tooLarge)

/-- A number as a signed integer of 64 bits. -/
def signed (number : Bool × Nat) : Reading Int64 :=
  let i : Int := if number.1 then -number.2 else number.2
  if 0x8000000000000000 ≤ i then .error (.number .tooLarge)
  else if i < -0x8000000000000000 then .error (.number .tooSmall)
  else .ok (Int64.ofInt i)

open Reader

namespace ServiceOptions

def readOne (name : String) (o : ServiceOptions) : Reader ServiceOptions :=
  match name with
  | "base_path" => do
    sign "="
    pure { o with basePath := some (← Reader.text) }
  | "timeout_ms" => do
    sign "="
    let ms ← unsigned (← integer)
    pure { o with timeoutMs := some ms }
  | _ => throw .serviceOption

def read (ts : List Token) : Reading ServiceOptions :=
  (options {} readOne).run ts

end ServiceOptions

namespace MethodOptions

def packings : List (String × Packing) :=
  [("single", .single), ("positional", .positional), ("named", .named)]

def readOne (name : String) (o : MethodOptions) : Reader MethodOptions :=
  match name with
  | "name" => do
    sign "="
    pure { o with name := some (← Reader.text) }
  | "notification" => pure { o with isNotification := true }
  | "params" => do
    sign "="
    match packings.lookup (← Reader.text) with
    | some packing => pure { o with packing := some packing }
    | none => throw .packing
  | "timeout_ms" => do
    sign "="
    let isNegative ← skipSign "-"
    let ms ← signed (← integer)
    pure { o with timeoutMs := some (if isNegative then -ms else ms) }
  | _ => throw .methodOption

def add (o : MethodOptions) (ts : List Token) : Reading MethodOptions :=
  (options o readOne).run ts

end MethodOptions

end DuplexRpc.Declaration

import DuplexRpc.Declaration.Options
import DuplexRpc.Declaration.Trait

/-!
The methods that a service can have. Every method takes a reference to the service, a context, and
its arguments, and one of three types of results fits, which decides how the method is called.
-/

namespace DuplexRpc.Declaration

/-- The shape of a method. -/
inductive Shape where
  /-- An asynchronous function. -/
  | async
  /-- A function that returns the future of a response. -/
  | future
  /-- A function that has nothing to wait for. -/
  | sync
deriving DecidableEq, Repr

/-- An argument of a method. -/
structure Argument where
  /-- Empty where the argument has no name. -/
  name : String
  type : TypeExpr

/-- A method that a service can have. -/
structure Method where
  ident : String
  options : MethodOptions
  shape : Shape
  /-- The type of the context. -/
  context : TypeExpr
  args : List Argument
  output : TypeExpr
  /-- The type that the output carries. -/
  result : TypeExpr
  /-- How many attributes are left besides those with options. -/
  otherAttributes : Nat
  hasBody : Bool

/-- The name of the attributes that hold the options of methods. -/
def optionsAttribute : String :=
  "jrpc"

/-- The names that a service needs for itself. -/
def reservedNames : List String :=
  ["jrpc_export", "jrpc_service", "jrpc_request", "jrpc_notify"]

namespace Attribute

def holdsOptions (a : Attribute) : Bool :=
  a.name == optionsAttribute

/-- Adds the options that an attribute holds. -/
def addTo (a : Attribute) (o : MethodOptions) : Reading MethodOptions :=
  match a.value with
  | .nothing => .error (.attributeWithoutGroup a.name a.isInner)
  | .value => .error (.attributeWithValue a.name a.isInner)
  | .group inside => o.add inside

end Attribute

/-- The options that attributes hold. All attributes are read: where several are refused, the last
refusal counts. -/
def MethodOptions.ofAttributes (attributes : List Attribute) : Reading MethodOptions :=
  (attributes.filter (·.holdsOptions)).foldl (fun sofar a =>
    match a.addTo (sofar.toOption.getD {}) with
    | .ok o => sofar.map fun _ => o
    | .error refusal => .error refusal) (.ok {})

def argumentOf : Input → Reading Argument
  | .typed (.name name) type => .ok { name, type }
  | .typed .wild type => .ok { name := "", type }
  | _ => .error .argument

/-- The type of the context, and the arguments. -/
def splitInputs : List Input → Reading (TypeExpr × List Argument)
  | .receiver true false :: .typed _ context :: rest => do
    pure (context, ← rest.mapM argumentOf)
  | _ => .error .inputs

/-- The shape of a method with an output, and the type that the output carries. -/
def classify (isAsync isNotification : Bool) (output : TypeExpr) : Reading (Shape × TypeExpr) :=
  let shaped (shape : Shape) (wrapper : String) : Option (Shape × TypeExpr) :=
    (output.carried? wrapper).map (shape, ·)
  let found :=
    if isAsync then shaped .async "Result"
    else (shaped .future "ResponseFuture").or
      (if isNotification then shaped .sync "Result" else none)
  match found with
  | some r => .ok r
  | none => .error .result

/-- The method that an item of a trait declares. -/
def readMethodOf : TraitItem → Reading Method
  | .other => .error .notMethod
  | .method m => do
    let options ← MethodOptions.ofAttributes m.attributes
    let signature := m.signature
    if reservedNames.contains signature.ident then throw (.reserved signature.ident)
    if signature.isGeneric then throw .generic
    let (context, args) ← splitInputs signature.inputs
    match signature.output with
    | none => .error .noResult
    | some output =>
      let (shape, result) ← classify signature.isAsync options.isNotification output
      pure {
        ident := signature.ident
        options, shape, context, args, output, result
        otherAttributes := (m.attributes.filter (!·.holdsOptions)).length
        hasBody := m.hasBody }

end DuplexRpc.Declaration

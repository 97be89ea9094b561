import DuplexRpc.Declaration.Lexeme
import DuplexRpc.Declaration.Method
import DuplexRpc.Declaration.Grammar.Levels
import DuplexRpc.Mapping.Descriptor
import DuplexRpc.Text.UpperCase

/-!
What becomes of a service declaration: a descriptor, the trait without the options, a handler of
every method for the side that implements the service, and a stub of every method for the side that
calls it. Handlers and stubs refer to the descriptor of a method by its place.
-/

namespace DuplexRpc.Declaration

/-- An argument that a handler decodes. -/
structure DecodedArgument where
  name : String
  /-- The type that the argument is decoded as. -/
  owned : TypeExpr
  /-- What the argument is called where it cannot be decoded. -/
  label : String

/-- An argument that a handler passes on to its method. -/
structure PassedArgument where
  name : String
  byReference : Bool

/-- The handler of a method. -/
structure MethodHandler where
  /-- The place of the method's descriptor. -/
  resolves : Nat
  decodes : List DecodedArgument
  /-- The method that is called. -/
  ident : String
  passes : List PassedArgument
  awaits : Bool

/-- An argument of a stub. -/
structure StubArgument where
  name : String
  type : TypeExpr

/-- The stub of a method. -/
structure MethodStub where
  ident : String
  isAsync : Bool
  /-- The place of the method's descriptor. -/
  refersTo : Nat
  /-- Whether it sends a request or a notification. -/
  via : DispatchKind
  awaits : Bool
  context : TypeExpr
  args : List StubArgument
  /-- The names of the arguments that it encodes, in order. -/
  encodes : List String
  output : TypeExpr

/-- A method in the trait that comes out. -/
structure TraitEntry where
  ident : String
  attributes : Nat
  output : TypeExpr
  /-- The method returns a future of its output. -/
  isFuture : Bool
  hasBody : Bool

/-- What becomes of a declaration. -/
structure Expansion where
  /-- The path of the library. -/
  library : String
  /-- The name of the descriptor. -/
  staticName : String
  service : ServiceDescriptor
  trait : List TraitEntry
  handlers : List MethodHandler
  stubs : List MethodStub

namespace Argument

/-- The name of the argument at a place, in handlers and in stubs. -/
def nameAt (place : Nat) : String :=
  "__arg" ++ toString place

/-- How the argument at a place is decoded. -/
def decoded (place : Nat) (a : Argument) : DecodedArgument where
  name := nameAt place
  owned := a.type.owned
  label := if a.name.isEmpty then toString place else a.name

/-- How the argument at a place is passed on. -/
def passed (place : Nat) (a : Argument) : PassedArgument where
  name := nameAt place
  byReference := a.type.isReference

/-- The argument of a stub at a place. -/
def ofStub (place : Nat) (a : Argument) : StubArgument where
  name := nameAt place
  type := a.type

end Argument

namespace Method

/-- Whether a method is called with an answer or without. -/
def kind (m : Method) : DispatchKind :=
  if m.options.isNotification then .notification else .request

/-- The descriptor of the method at a place. -/
def descriptor (place : Nat) (m : Method) : MethodDescriptor where
  place := place
  ident := m.ident
  name := m.options.name
  kind := m.kind
  packing := m.options.packing
  params := m.args.map (·.name)
  resultType := withoutSpaces m.result.text
  returnsFuture := m.shape == .future
  timeoutMs := m.options.timeoutMs

/-- The handler of the method at a place. -/
def handler (place : Nat) (m : Method) : MethodHandler where
  resolves := place
  decodes := m.args.mapIdx Argument.decoded
  ident := m.ident
  passes := m.args.mapIdx Argument.passed
  awaits := m.shape != .sync

/-- What the stub of a method sends. A future is always that of a response. -/
def sends (m : Method) : DispatchKind :=
  match m.shape with
  | .future => .request
  | .async => m.kind
  | .sync => .notification

/-- The stub of the method at a place. -/
def stub (place : Nat) (m : Method) : MethodStub where
  ident := m.ident
  isAsync := m.shape == .async
  refersTo := place
  via := m.sends
  awaits := m.shape == .async && m.sends == .request
  context := m.context
  args := m.args.mapIdx Argument.ofStub
  encodes := m.args.mapIdx fun place _ => Argument.nameAt place
  output := m.output

/-- The method in the trait that comes out. -/
def entry (m : Method) : TraitEntry where
  ident := m.ident
  attributes := m.otherAttributes
  output := m.output
  isFuture := m.shape == .async
  hasBody := m.hasBody

end Method

namespace TraitEntry

/-- The text of the output without white space. -/
def outputText (e : TraitEntry) : String :=
  if e.isFuture then
    s!"->impl::core::future::Future<Output={e.output.compactText}>+::core::marker::Send"
  else "->" ++ e.output.compactText

end TraitEntry

namespace MethodStub

/-- The texts of the inputs after the receiver, without white space. -/
def inputTexts (s : MethodStub) : List String :=
  ("ctx:" ++ s.context.compactText) :: s.args.map fun a => a.name ++ ":" ++ a.type.compactText

end MethodStub

/-- The path of the library, given the name under which a package depends on it, if it does. -/
def libraryPath (dependency : Option String) : String :=
  "::" ++ (dependency.getD "jrpc").map fun c => if c = '-' then '_' else c

/-- The name of a trait's descriptor, which must be an identifier. -/
def staticNameOf (ident : String) : Reading String :=
  let name := "__JRPC_SERVICE_" ++ Text.upperCase ident
  if name.toList.all Text.isIdentifierContinue then .ok name else .error (.invalidName name)

def expandTrait (dependency : Option String) (options : ServiceOptions) (t : TraitDecl) :
    Reading Expansion := do
  let staticName ← staticNameOf t.ident
  let methods ← t.items.mapM readMethodOf
  pure {
    library := libraryPath dependency
    staticName
    service := {
      name := t.ident
      basePath := options.basePath
      timeoutMs := options.timeoutMs
      methods := methods.mapIdx Method.descriptor }
    trait := methods.map Method.entry
    handlers := methods.mapIdx Method.handler
    stubs := methods.mapIdx Method.stub }

/-- The tokens of a text, which must consist of tokens. -/
def readTokens (s : String) : Reading (List Token) :=
  match tokens? s with
  | some ts => .ok ts
  | none => .error .noTokens

/-- What becomes of the declaration with the given options and the given text. -/
def expand (dependency : Option String) (options declaration : String) : Reading Expansion := do
  let options ← readTokens options
  let declaration ← readTokens declaration
  let options ← ServiceOptions.read options
  expandTrait dependency options (← readTrait declaration)

end DuplexRpc.Declaration

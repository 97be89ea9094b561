import DuplexRpc.Carried
import DuplexRpc.Endpoint.Note
import DuplexRpc.Registry

/-!
Services: declared methods with an implementation on the one side, and callers for them on the
other.
-/

namespace DuplexRpc

/-- A method of a service. -/
structure ServiceMethod where
  descriptor : MethodDescriptor
  /-- The types that its arguments are carried as. -/
  args : List (Decoder Value)
  /-- The type that its result is carried as. -/
  result : Decoder Value
  /-- What it does with its arguments. -/
  run : Context → List Value → Script

/-- A service with all of its methods. -/
structure Service where
  name : String
  basePath : Option String := none
  timeoutMs : Option UInt64 := none
  methods : List ServiceMethod

namespace Service

def descriptor (s : Service) : ServiceDescriptor :=
  { name := s.name, basePath := s.basePath, timeoutMs := s.timeoutMs
    methods := s.methods.map (·.descriptor) }

def method? (s : Service) (ident : String) : Option ServiceMethod :=
  s.methods.find? (·.descriptor.ident == ident)

end Service

namespace Script

/-- Decodes the argument at a place, with the label that it has in errors. -/
def argument {α : Type} (args : List Value) (place : Nat) (label : String) (d : Decoder α)
    (next : α → Script) : Script :=
  decode d label (args[place]?.getD .null) next

end Script

namespace Registry

/-- What a registration comes to: its outcome, the handlers after it, and what there is to
report. -/
abbrev Registration :=
  Except RpcError Unit × Registry × List Note

def registerRequest (r : Registry) (method : String) (h : Handler) : Registration :=
  match r.addRequest method h with
  | .ok r => (.ok (), r, [.handlerRegistered method])
  | .error e => (.error e, r, [])

def registerNotification (r : Registry) (method : String) (h : Handler) : Registration :=
  (.ok (), r.addNotification method h, [.listenerRegistered method])

def exportMethod (r : Registry) (m : MethodMapping) (f : Context → List Value → Script) :
    Registration :=
  match m.kind with
  | .request => r.registerRequest m.name (.ofMapping m f)
  | .notification => r.registerNotification m.name (.ofMapping m f)

/-- Registers the methods of a service in their order, up to the first that fails. What was
registered before it stays. -/
def exportMethods (r : Registry) (service : ServiceDescriptor) :
    List ServiceMethod → Registration
  | [] => (.ok (), r, [])
  | m :: ms =>
    match r.resolve service m.descriptor with
    | (.error e, r) => (.error e, r, [])
    | (.ok mapping, r) =>
      match r.exportMethod mapping m.run with
      | (.error e, r, notes) => (.error e, r, notes)
      | (.ok (), r, notes) =>
        let (outcome, r, more) := exportMethods r service ms
        (outcome, r, notes ++ more)

def exportService (r : Registry) (s : Service) : Registration :=
  r.exportMethods s.descriptor s.methods

/-- Something that can be registered. -/
inductive Entry where
  | request (method : String) (h : Handler)
  | notification (method : String) (h : Handler)
  | service (s : Service)

def register (r : Registry) : Entry → Registration
  | .request method h => r.registerRequest method h
  | .notification method h => r.registerNotification method h
  | .service s => r.exportService s

/-- Registers entries one after the other, whatever comes of each. -/
def registerAll (r : Registry) : List Entry → List (Except RpcError Unit) × Registry × List Note
  | [] => ([], r, [])
  | entry :: entries =>
    let (outcome, r, notes) := r.register entry
    let (outcomes, r, more) := registerAll r entries
    (outcome :: outcomes, r, notes ++ more)

end Registry

namespace ServiceMethod

/-- Encodes arguments one by one, each as its type, or tells which of them does not fit. -/
def encodeArgs : List (Decoder Value) → List Value → Except Mismatch (List Value)
  | [], _ => .ok []
  | d :: ds, args =>
    match d.ofValue (args.headD .null) with
    | .error m => .error m
    | .ok v =>
      match encodeArgs ds args.tail with
      | .error m => .error m
      | .ok vs => .ok (v.sorted :: vs)

/-- A caller's call of the method, whose result is read as its type. -/
def caller (m : ServiceMethod) (service : ServiceDescriptor) (client : Client)
    (args : List Value) : Script :=
  let launch := Launch.mapped client service m.descriptor (.ok args)
  match m.descriptor.kind with
  | .request => .request launch fun o => .done (o.bind (decodeResult m.result))
  | .notification =>
    if m.descriptor.returnsFuture then
      .request launch fun o => .done (o.bind (decodeResult m.result))
    else .notify launch fun r => .done (r.map fun _ => .null)

end ServiceMethod

end DuplexRpc

import DuplexRpc.Duration.Basic
import DuplexRpc.Mapping.Descriptor

/-!
Mappings: a declared method with all that is left open in its declaration settled.
-/

namespace DuplexRpc

/-- How long a call of a method waits. -/
inductive TimeoutPolicy where
  | inherit
  | disabled
  | after (d : Duration)
deriving DecidableEq, Repr

/-- The timeout of a call by a caller with a timeout of its own. -/
def TimeoutPolicy.or (p : TimeoutPolicy) (fallback : Option Duration) : Option Duration :=
  match p with
  | .inherit => fallback
  | .disabled => none
  | .after d => some d

/-- A method as it is called and exported. -/
structure MethodMapping where
  name : String
  kind : DispatchKind
  packing : Packing
  params : List String
  resultType : String
  returnsFuture : Bool
  timeout : TimeoutPolicy
deriving DecidableEq, Repr

namespace MethodMapping

/-- The name that a method is called by: its own, or its identifier after the base path of the
service. -/
def nameOf (service : ServiceDescriptor) (method : MethodDescriptor) : String :=
  match method.name, service.basePath with
  | some name, _ => name
  | none, some basePath =>
    if basePath.isEmpty then method.ident else s!"{basePath}/{method.ident}"
  | none, none => method.ident

/-- The timeout of a method: its own, or that of the service. -/
def timeoutOf (service : ServiceDescriptor) (method : MethodDescriptor) : TimeoutPolicy :=
  let ms := (method.timeoutMs.map Int64.toInt).getD 0
  if ms < 0 then .disabled
  else if 0 < ms then .after (.ofMillis ms.toNat)
  else
    match service.timeoutMs with
    | some ms => if ms = 0 then .inherit else .after (.ofMillis ms.toNat)
    | none => .inherit

/-- Why a method cannot be mapped. -/
inductive Invalid where
  | singleCount
  | namedWithoutName
  | notificationFuture
deriving DecidableEq, Repr

def Invalid.message : Invalid → String
  | .singleCount => "single params require exactly one parameter"
  | .namedWithoutName => "named params require every parameter to be named"
  | .notificationFuture => "a notification cannot return a future"

/-- What is wrong with a method, if anything is. -/
def invalid? (method : MethodDescriptor) : Option Invalid :=
  let packing := method.packing.getD .positional
  if packing = .single ∧ method.params.length ≠ 1 then some .singleCount
  else if packing = .named ∧ method.params.any (·.isEmpty) then some .namedWithoutName
  else if method.kind = .notification ∧ method.returnsFuture then some .notificationFuture
  else none

/-- The mapping of a method of a service. -/
def resolve (service : ServiceDescriptor) (method : MethodDescriptor) :
    Except RpcError MethodMapping :=
  match invalid? method with
  | some reason =>
    .error
      { kind := .invalidMapping, message := s!"{service.name}::{method.ident}: {reason.message}" }
  | none =>
    .ok
      { name := nameOf service method
        kind := method.kind
        packing := method.packing.getD .positional
        params := method.params
        resultType := method.resultType
        returnsFuture := method.returnsFuture
        timeout := timeoutOf service method }

def unpack (m : MethodMapping) (params : Option Value) : Except RpcError (List Value) :=
  m.packing.unpack m.params params

def pack (m : MethodMapping) (args : List Value) : Except RpcError (Option Value) :=
  m.packing.pack m.params args

end MethodMapping

end DuplexRpc

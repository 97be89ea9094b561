import DuplexRpc.Handler.Script
import DuplexRpc.Mapping.Resolver

/-!
The handlers of an endpoint. A method has at most one handler for requests, and any number of
handlers for notifications, which run in the order of their registration.
-/

namespace DuplexRpc

/-- The handlers of an endpoint, by method, and the mappings of declared methods. -/
structure Registry where
  requests : List (String × Handler) := []
  notifications : List (String × List Handler) := []
  resolver : MappingResolver := {}

namespace Registry

def requestHandler? (r : Registry) (method : String) : Option Handler :=
  Fields.get? method r.requests

def notificationHandlers (r : Registry) (method : String) : List Handler :=
  (Fields.get? method r.notifications).getD []

/-- The methods with a handler for requests, in order. -/
def methodNames (r : Registry) : List String :=
  r.requests.map (·.1)

/-- Registers the handler for the requests of a method, which must be the first. -/
def addRequest (r : Registry) (method : String) (h : Handler) : Except RpcError Registry :=
  match r.requestHandler? method with
  | some _ =>
    .error
      { kind := .duplicateHandler, message := s!"request handler already registered: {method}" }
  | none => .ok { r with requests := Fields.insert method h r.requests }

/-- Registers one more handler for the notifications of a method. -/
def addNotification (r : Registry) (method : String) (h : Handler) : Registry :=
  let handlers := r.notificationHandlers method ++ [h]
  { r with notifications := Fields.insert method handlers r.notifications }

def resolve (r : Registry) (service : ServiceDescriptor) (method : MethodDescriptor) :
    Except RpcError MethodMapping × Registry :=
  let (m, resolver) := r.resolver.resolve service method
  (m, { r with resolver })

def describe (r : Registry) : String :=
  let notifications :=
    r.notifications.map fun (name, hs) => s!"({Text.quoted name}, {hs.length})"
  "HandlerRegistry \x7b requests: [" ++ ", ".intercalate (r.methodNames.map Text.quoted) ++
    "], notifications: [" ++ ", ".intercalate notifications ++ "] \x7d"

end Registry

end DuplexRpc

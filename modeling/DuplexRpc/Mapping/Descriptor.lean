import DuplexRpc.Params.Packing

/-!
What a service declares about its methods.
-/

namespace DuplexRpc

/-- Whether a method is called with an answer or without. -/
inductive DispatchKind where
  | request
  | notification
deriving DecidableEq, Repr

def DispatchKind.name : DispatchKind → String
  | .request => "Request"
  | .notification => "Notification"

/-- What a service declares about one method. -/
structure MethodDescriptor where
  /-- Tells descriptors apart: no two of them have the same place. -/
  place : Nat
  ident : String
  name : Option String := none
  kind : DispatchKind := .request
  packing : Option Packing := none
  /-- The names of the parameters, empty where one has none. -/
  params : List String := []
  resultType : String
  returnsFuture : Bool := false
  /-- Milliseconds; zero leaves the choice to the service, less than zero means no timeout. -/
  timeoutMs : Option Int64 := none
deriving DecidableEq, Repr

/-- What a service declares. -/
structure ServiceDescriptor where
  name : String
  /-- What the names of its methods start with. -/
  basePath : Option String := none
  /-- Milliseconds; zero leaves the choice to the caller. -/
  timeoutMs : Option UInt64 := none
  methods : List MethodDescriptor := []
deriving DecidableEq, Repr

end DuplexRpc

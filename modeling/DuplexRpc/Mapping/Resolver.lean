import DuplexRpc.Mapping.Basic

/-!
Resolved mappings are kept, by the place of the method's descriptor alone. Failures are not kept.
-/

namespace DuplexRpc

/-- The mappings resolved so far. -/
structure MappingResolver where
  cache : List (Nat × MethodMapping) := []
deriving Repr

namespace MappingResolver

def size (r : MappingResolver) : Nat :=
  r.cache.length

def describe (r : MappingResolver) : String :=
  s!"MappingResolver \x7b cached: {r.size} \x7d"

def find? (r : MappingResolver) (method : MethodDescriptor) : Option MethodMapping :=
  r.cache.lookup method.place

/-- The mapping of a method: the one kept for it, or else the one of the service, which is kept from
then on. -/
def resolve (r : MappingResolver) (service : ServiceDescriptor) (method : MethodDescriptor) :
    Except RpcError MethodMapping × MappingResolver :=
  match r.find? method with
  | some m => (.ok m, r)
  | none =>
    match MethodMapping.resolve service method with
    | .ok m => (.ok m, ⟨r.cache ++ [(method.place, m)]⟩)
    | .error e => (.error e, r)

end MappingResolver

end DuplexRpc

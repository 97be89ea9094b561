import DuplexRpc.Declaration.Attribute

/-!
Service declarations as they are read: a trait with items, most of them methods.
-/

namespace DuplexRpc.Declaration

/-- A parameter of a method. -/
inductive Input where
  /-- The receiver: whether it is taken by reference, and whether it may be changed. -/
  | receiver (reference mutable : Bool)
  | typed (pattern : Pattern) (type : TypeExpr)

namespace Input

def isReceiver : Input → Bool
  | .receiver _ _ => true
  | .typed _ _ => false

end Input

/-- The signature of a method. -/
structure Signature where
  isAsync : Bool
  ident : String
  isGeneric : Bool
  inputs : List Input
  /-- The type of the result, if one is written. -/
  output : Option TypeExpr

/-- A method of a trait. -/
structure TraitMethod where
  attributes : List Attribute
  signature : Signature
  hasBody : Bool

/-- What a trait consists of. -/
inductive TraitItem where
  | method (m : TraitMethod)
  | other

structure TraitDecl where
  ident : String
  items : List TraitItem

end DuplexRpc.Declaration

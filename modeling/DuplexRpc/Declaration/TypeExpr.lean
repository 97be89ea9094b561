import DuplexRpc.Declaration.Token

/-!
The types that declarations mention. Only what a service or the grammar asks about is told apart; of
any other type the text is enough.
-/

namespace DuplexRpc.Declaration

mutual

inductive TypeExpr where
  /-- A path, with what stands before its first segment. -/
  | path (front : String) (segments : List Segment)
  | reference (lifetime : String) (mutable : Bool) (referent : TypeExpr)
  | slice (item : TypeExpr)
  | paren (inside : TypeExpr)
  /-- Bounds without a keyword before them, and whether there is just one. -/
  | bounds (text : String) (isSingle : Bool)
  | other (text : String)

/-- A segment of a path. -/
inductive Segment where
  | plain (name : String)
  /-- A segment with arguments in angle brackets, each with whether a comma follows. `front` is the
  text between the name and the bracket. -/
  | angled (name front : String) (args : List (GenericArg × Bool))
  | other (name text : String)

/-- An argument of a type. -/
inductive GenericArg where
  | lifetime (name : String)
  | type (t : TypeExpr)
  | other (text : String)

end

namespace TypeExpr

/-- The text of the arguments between angle brackets, given the text of each. Lifetimes come first;
a comma is added where two arguments would touch. -/
def joinArgs (args : List (Bool × String × Bool)) : String :=
  let piece (a : Bool × String × Bool) : String := a.2.1 ++ if a.2.2 then "," else ""
  let lifetimes := args.filter (·.1)
  let others := args.filter (!·.1)
  let place (acc : String × Bool) (a : Bool × String × Bool) : String × Bool :=
    (acc.1 ++ (if acc.2 then "" else ",") ++ piece a, a.2.2)
  let front := String.join (lifetimes.map piece)
  (others.foldl place (front, (lifetimes.getLast?.map (·.2.2)).getD true)).1

mutual

/-- The text of a type, with nothing between its tokens. -/
def text : TypeExpr → String
  | .path front segments => front ++ "::".intercalate (segmentTexts segments)
  | .reference lifetime mutable t =>
    "&" ++ lifetime ++ (if mutable then "mut" else "") ++ text t
  | .slice t => "[" ++ text t ++ "]"
  | .paren t => "(" ++ text t ++ ")"
  | .bounds s _ => s
  | .other s => s

def segmentTexts : List Segment → List String
  | [] => []
  | .plain name :: rest => name :: segmentTexts rest
  | .angled name front args :: rest =>
    (name ++ front ++ "<" ++ joinArgs (argTexts args) ++ ">") :: segmentTexts rest
  | .other name s :: rest => (name ++ s) :: segmentTexts rest

/-- The texts of arguments: whether one is a lifetime, its text, and whether a comma follows. -/
def argTexts : List (GenericArg × Bool) → List (Bool × String × Bool)
  | [] => []
  | (.lifetime name, comma) :: rest => (true, name, comma) :: argTexts rest
  | (.type t, comma) :: rest => (false, text t, comma) :: argTexts rest
  | (.other s, comma) :: rest => (false, s, comma) :: argTexts rest

end

/-- The text of a type without white space. -/
def compactText (t : TypeExpr) : String :=
  withoutBlanks t.text

/-- The type is a path that starts with a type in angle brackets. -/
def isQualified : TypeExpr → Bool
  | .path front _ => front != "" && front != "::"
  | _ => false

/-- The type is a path of names alone. -/
def isPlainPath : TypeExpr → Bool
  | .path _ segments => segments.all fun
    | .plain _ => true
    | _ => false
  | _ => false

/-- The type is a name, perhaps with arguments in angle brackets. -/
def isSimple : TypeExpr → Bool
  | .path "" [.plain _] | .path "" [.angled _ _ _] => true
  | _ => false

/-- The type can be the first bound of a sum when it stands in parentheses. -/
def canBeBound : TypeExpr → Bool
  | .path front segments => !isQualified (.path front segments)
  | .bounds _ isSingle => isSingle
  | _ => false

/-- The type is the path that consists of a name alone. -/
def isName (name : String) : TypeExpr → Bool
  | .path "" [.plain s] => s == name
  | _ => false

def firstType : List (GenericArg × Bool) → Option TypeExpr
  | [] => none
  | (.type t, _) :: _ => some t
  | _ :: rest => firstType rest

/-- The type that a wrapper carries: the first type argument of the last segment, which must have
the name of the wrapper. -/
def carried? (wrapper : String) : TypeExpr → Option TypeExpr
  | .path _ segments =>
    match segments.getLast? with
    | some (.angled name _ args) => if name = wrapper then firstType args else none
    | _ => none
  | _ => none

/-- A path of the standard library around a type. -/
def vectorOf (t : TypeExpr) : TypeExpr :=
  .path "::" [.plain "std", .plain "vec", .angled "Vec" "" [(.type t, false)]]

def ownedText : TypeExpr :=
  .path "::" [.plain "std", .plain "string", .plain "String"]

/-- The owned form of a type: what a reference refers to, where texts and slices are owned in their
growable forms. -/
def owned : TypeExpr → TypeExpr
  | .reference _ _ t =>
    if t.isName "str" then ownedText
    else
      match t with
      | .slice item => vectorOf item
      | t => t
  | t => t

def isReference : TypeExpr → Bool
  | .reference _ _ _ => true
  | _ => false

end TypeExpr

end DuplexRpc.Declaration

import DuplexRpc.Error.Basic
import DuplexRpc.Json.Writer

/-!
How the arguments of a method stand in the parameters of a message: the only argument itself, a list
in the order of the parameters, or an object with their names.
-/

namespace DuplexRpc

/-- A way to pack arguments. -/
inductive Packing where
  | single
  | positional
  | named
deriving DecidableEq, Repr

namespace Packing

/-- The name of a packing in configurations and messages. -/
def name : Packing → String
  | .single => "single"
  | .positional => "positional"
  | .named => "named"

def decoder : Decoder Packing :=
  .choice [("single", .single), ("positional", .positional), ("named", .named)]

def wrongShape (packing : Packing) (v : Value) : RpcError :=
  .invalidParams s!"expected {packing.name} params, got: {Json.text v}"

/-- The first `count` values, null where there are fewer. -/
def resize (count : Nat) (values : List Value) : List Value :=
  (values ++ List.replicate count Value.null).take count

/-- Takes the value of each name out of the fields; of two equal names the first one gets it. -/
def takeNames : (names : List String) → List (String × Value) → List Value
  | [], _ => []
  | name :: names, fields =>
    (Fields.get? name fields).getD Value.null :: takeNames names (Fields.erase name fields)

/-- The arguments in parameters that may be absent. An argument that is not there is null. -/
def unpack (packing : Packing) (names : List String) (params : Option Value) :
    Except RpcError (List Value) :=
  match packing, params with
  | .single, params => .ok [params.getD .null]
  | _, none => .ok (List.replicate names.length Value.null)
  | .positional, some (.arr values) => .ok (resize names.length values)
  | .named, some (.obj fields) => .ok (takeNames names fields)
  | packing, some v => .error (packing.wrongShape v)

/-- The parameters for arguments. A single null and an empty object of names are left out. -/
def pack (packing : Packing) (names : List String) (args : List Value) :
    Except RpcError (Option Value) :=
  match packing with
  | .single =>
    match args with
    | [arg] => .ok (if arg.isNull then none else some arg)
    | _ => .error (.invalidParams s!"single params expect one argument, got {args.length}")
  | .positional => .ok (some (.arr args))
  | .named =>
    if args.length ≠ names.length then
      .error (.invalidParams
        s!"expected {names.length} named arguments, got {args.length}")
    else if args.isEmpty then .ok none
    else .ok (some (.ofFields (names.zip args)))

end Packing

end DuplexRpc

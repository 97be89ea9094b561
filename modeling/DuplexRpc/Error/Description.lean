import DuplexRpc.Error.Chain

/-!
Errors described by values: an error of the protocol by its code, and chains of errors by what their
links are.
-/

namespace DuplexRpc

def Value.asText? : Value → Option String
  | .str s => some s
  | _ => none

def Value.asInt64? (v : Value) : Option Int64 :=
  (Decoder.int64.ofValue v).toOption

/-- The error of a code, with a message and data if they are given. -/
def RpcError.ofDescription? (v : Value) : Option RpcError := do
  let code ← (← v.get? "code").asInt64?
  let message := ((v.get? "message").bind Value.asText?).getD ""
  let e : RpcError := { kind := .ofCode code, message }
  some (match v.get? "data" with
    | some data => e.withData data
    | none => e)

def IoKind.ofName? (name : String) : Option IoKind :=
  [("TimedOut", .timedOut), ("Interrupted", .interrupted), ("NotFound", .notFound),
    ("BrokenPipe", .brokenPipe), ("ConnectionReset", .connectionReset),
    ("Other", IoKind.other)].lookup name

namespace ErrorChain

/-- The error that stands for a description that is none. -/
def unknown : ErrorChain :=
  .plain "?"

/-- An input or output error around the one described inside of it, or around a message, or bare. -/
def ioOfDescription (inside : Value → ErrorChain) (kind : IoKind) (v : Value) : ErrorChain :=
  match v.get? "inner", v.get? "message" with
  | some inner, _ => .ioAround kind (inside inner)
  | none, some (.str m) => .ioAround kind (.plain m)
  | none, _ => .io kind

/-- The chain of a description with at most `depth` links. -/
def ofDescriptionTo : (depth : Nat) → Value → ErrorChain
  | 0, _ => unknown
  | depth + 1, v =>
    let inside := ofDescriptionTo depth
    match v with
    | .obj _ =>
      if let some d := v.get? "typed" then ((RpcError.ofDescription? d).map typed).getD unknown
      else if let some (.str kind) := v.get? "io" then
        ((IoKind.ofName? kind).map fun kind => ioOfDescription inside kind v).getD unknown
      else if let some (.str text) := v.get? "wrap" then
        .wrapped text (((v.get? "source").map inside).getD unknown)
      else if let some (.str text) := v.get? "text" then .plain text
      else if let some (.str what) := v.get? "join" then
        if what = "cancelled" then .cancelled else .panicked (.text what)
      else if (v.get? "elapsed").isSome then .elapsed
      else if (v.get? "recv").isSome then .closed
      else unknown
    | _ => unknown

def ofDescription (v : Value) : ErrorChain :=
  ofDescriptionTo (v.depth + 1) v

end ErrorChain

end DuplexRpc

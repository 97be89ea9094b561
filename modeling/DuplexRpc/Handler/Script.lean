import DuplexRpc.Config
import DuplexRpc.Error.Chain
import DuplexRpc.Mapping.Basic
import DuplexRpc.Params.Coding
import DuplexRpc.Pending.Slot

/-!
Scripts: what a handler or a caller does, step by step. Every place where it waits or touches an
endpoint is a step, so that other tasks can go on between two steps.
-/

namespace DuplexRpc

/-- A call that is to be made at an endpoint. -/
inductive Launch where
  /-- A method by its name. -/
  | plain (method : String) (params : Option Value) (timeout : Option Duration)
      (resultType : String)
  /-- A declared method, with the arguments or with what is wrong with them. -/
  | mapped (client : Client) (service : ServiceDescriptor) (method : MethodDescriptor)
      (args : Except RpcError (List Value))

/-- What a script can see of its endpoint. -/
structure EndpointView where
  isPending : Id → Bool
  /-- The names of the methods with a handler for requests, in order. -/
  methods : List String

/-- How a gate is opened. -/
inductive Opening where
  | value (v : Value)
  | error (e : RpcError)
  | panic (payload : PanicPayload)
  /-- Nobody will open the gate any more. -/
  | dropped

/-- What a task does. -/
inductive Script where
  | done (outcome : Outcome)
  | panic (payload : PanicPayload)
  /-- Writes an entry of the log. -/
  | log (entry : Value) (next : Script)
  /-- Waits at a gate. -/
  | wait (gate : String) (next : Opening → Script)
  /-- Makes a request and waits for its outcome. -/
  | request (launch : Launch) (next : Outcome → Script)
  /-- Posts a notification. -/
  | notify (launch : Launch) (next : Except RpcError Unit → Script)
  /-- Looks at the endpoint. -/
  | look (next : EndpointView → Script)

namespace Script

/-- A task that ends with an error. -/
def fail (e : RpcError) : Script :=
  .done (.error e)

/-- Goes on with what an `Except` holds, or ends with its error. -/
def ofExcept {α : Type} (r : Except RpcError α) (next : α → Script) : Script :=
  match r with
  | .ok x => next x
  | .error e => fail e

/-- Goes on after a script with its outcome; a panic is not caught. -/
def andThen : Script → (Outcome → Script) → Script
  | .done outcome, f => f outcome
  | .panic payload, _ => .panic payload
  | .log entry next, f => .log entry (andThen next f)
  | .wait gate next, f => .wait gate fun o => andThen (next o) f
  | .request launch next, f => .request launch fun o => andThen (next o) f
  | .notify launch next, f => .notify launch fun r => andThen (next r) f
  | .look next, f => .look fun v => andThen (next v) f

/-- The script as a task of its own whose outcome is waited for: a panic becomes the error of a task
that panicked. -/
def joined : Script → Script
  | .done outcome => .done outcome
  | .panic payload => fail (ErrorChain.panicked payload).resolve
  | .log entry next => .log entry (joined next)
  | .wait gate next => .wait gate fun o => joined (next o)
  | .request launch next => .request launch fun o => joined (next o)
  | .notify launch next => .notify launch fun r => joined (next r)
  | .look next => .look fun v => joined (next v)

/-- Waits at a gate for a value. -/
def pass (gate : String) (next : Value → Script) : Script :=
  .wait gate fun
    | .value v => next v
    | .error e => fail e
    | .panic payload => .panic payload
    | .dropped => fail .interrupted

def decode {α : Type} (d : Decoder α) (name : String) (v : Value) (next : α → Script) : Script :=
  ofExcept (decodeParam d name v) next

/-- Ends with a datum of the host as the result. -/
def return_ (d : Datum) : Script :=
  .done (encodeResult d)

end Script

/-- What a handler knows about the call. -/
structure Context where
  method : String := ""
  /-- The id of the request, none for a notification. -/
  id : Option Id := none
deriving DecidableEq, Repr

def Context.describe (c : Context) : String :=
  let id :=
    match c.id with
    | some id => s!"Some({id.describe})"
    | none => "None"
  s!"Context \x7b method: {Text.quoted c.method}, id: {id}, .. \x7d"

/-- What answers a call: the script for its context and its parameters. -/
abbrev Handler :=
  Context → Option Value → Script

namespace Handler

/-- A handler that reads all of the parameters as one type; absent ones are null. -/
def ofFunction {α : Type} (d : Decoder α) (f : Context → α → Script) : Handler := fun ctx params =>
  .decode d "params" (params.getD .null) (f ctx)

/-- A handler of a declared method, which gets the arguments. -/
def ofMapping (m : MethodMapping) (f : Context → List Value → Script) : Handler :=
  fun ctx params => .ofExcept (m.unpack params) (f ctx)

end Handler

end DuplexRpc

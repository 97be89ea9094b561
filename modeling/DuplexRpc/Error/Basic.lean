import DuplexRpc.Decode.Record
import DuplexRpc.Error.Kind

/-!
Errors that a request can end with. On the wire an error is an object with a code, a message and
perhaps data.
-/

namespace DuplexRpc

/-- An error of the protocol. -/
structure RpcError where
  kind : ErrorKind
  message : String
  data : Option Value := none

namespace RpcError

def ofKind (kind : ErrorKind) : RpcError :=
  { kind, message := "" }

def internal (message : String) : RpcError :=
  { kind := .internalError, message }

/-- A text or a frame that is no message. -/
def parse (message : String) : RpcError :=
  { kind := .parseError, message }

def invalidParams (message : String) : RpcError :=
  { kind := .invalidParams, message }

/-- A message that could not be posted. -/
def sendFailed (message : String) : RpcError :=
  { kind := .sendFailed, message }

/-- The message of an error by timeout. -/
def timeoutMessage : String :=
  "Timeout"

/-- The request got no answer in time. -/
def timeout : RpcError :=
  internal timeoutMessage

/-- The request can get no answer any more. -/
def interrupted : RpcError :=
  internal "Interrupted"

/-- An error by timeout, whatever its data. -/
def isTimeout (e : RpcError) : Bool :=
  e.kind == .internalError && e.message == timeoutMessage

def methodNotFound (method : String) : RpcError :=
  { kind := .methodNotFound, message := s!"method not found: {method}" }

/-- The error with data; null counts as none. -/
def withData (e : RpcError) (data : Value) : RpcError :=
  { e with data := if data.isNull then none else some data }

/-- Equal as errors, the data by `Value.same`. -/
def same (e f : RpcError) : Bool :=
  e.kind == f.kind && e.message == f.message &&
    match e.data, f.data with
    | none, none => true
    | some v, some w => v.same w
    | _, _ => false

/-- The text of an error: its kind, and its message if there is one. -/
def text (e : RpcError) : String :=
  if e.message.isEmpty then e.kind.name else s!"{e.kind.name}: {e.message}"

/-- The entries of an error on the wire, in their order there. -/
def entries (e : RpcError) : List (String × Value) :=
  [("code", .ofInt64 e.kind.code), ("message", .str e.message)] ++
    (e.data.map fun v => ("data", v)).toList

/-- An error as a value whose entries stand in the order of the wire. -/
def layout (e : RpcError) : Value :=
  .obj e.entries

def toValue (e : RpcError) : Value :=
  .ofFields e.entries

/-- The object of an error: a code and a message, and data that may be missing or null. -/
def decoder : Decoder RpcError :=
  .record "Error"
    [.required "code" .int64 fun code e => { e with kind := .ofCode code },
      .required "message" .string fun message e => { e with message },
      .optional "data" (.optional .value) fun data e => { e with data }]
    (ofKind .internalError)

end RpcError

end DuplexRpc

import DuplexRpc.Error.Basic
import DuplexRpc.Id

/-!
Messages: notifications, requests and responses, and how they stand on the wire. Parameters that are
absent differ from parameters that are null.
-/

namespace DuplexRpc

/-- A call without an answer. -/
structure Notification where
  method : String
  params : Option Value := none

/-- A call that is answered by a response with its id. -/
structure Request where
  id : Id
  method : String
  params : Option Value := none

def Request.asNotification (r : Request) : Notification :=
  { method := r.method, params := r.params }

/-- The answer to a request. -/
structure Response where
  id : Id
  result : Except RpcError Value

/-- What one endpoint tells another. -/
inductive Message where
  | notification (n : Notification)
  | request (r : Request)
  | response (r : Response)

namespace Message

/-- The version of the protocol that every message names. -/
def version : String :=
  "2.0"

def method? : Message → Option String
  | .notification n => some n.method
  | .request r => some r.method
  | .response _ => none

/-- The id of a request or a response. -/
def id? : Message → Option Id
  | .notification _ => none
  | .request r => some r.id
  | .response r => some r.id

def entry (name : String) : Option Value → List (String × Value)
  | some v => [(name, v)]
  | none => []

/-- The entries of a message in the order of the wire, with errors written by `error`. -/
def entriesWith (error : RpcError → Value) : Message → List (String × Value)
  | .notification n =>
    [("jsonrpc", .str version), ("method", .str n.method)] ++ entry "params" n.params
  | .request r =>
    [("jsonrpc", .str version), ("id", r.id.toValue), ("method", .str r.method)] ++
      entry "params" r.params
  | .response r =>
    [("jsonrpc", .str version), ("id", r.id.toValue),
      match r.result with
      | .ok v => ("result", v)
      | .error e => ("error", error e)]

/-- A message as a value whose entries stand in the order of the wire. -/
def layout (m : Message) : Value :=
  .obj (m.entriesWith RpcError.layout)

def toValue (m : Message) : Value :=
  .ofFields (m.entriesWith RpcError.toValue)

/-- Equal as messages: ids by `Id.same`, values by `Value.same`, errors by `RpcError.same`. -/
def same : Message → Message → Bool
  | .notification a, .notification b => a.method == b.method && sameParams a.params b.params
  | .request a, .request b =>
    a.id.same b.id && a.method == b.method && sameParams a.params b.params
  | .response a, .response b =>
    a.id.same b.id &&
      match a.result, b.result with
      | .ok v, .ok w => v.same w
      | .error e, .error f => e.same f
      | _, _ => false
  | _, _ => false
where
  sameParams : Option Value → Option Value → Bool
    | none, none => true
    | some v, some w => v.same w
    | _, _ => false

end Message

end DuplexRpc

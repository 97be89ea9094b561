import DuplexRpc.Message.Basic
import DuplexRpc.Json.Writer
import DuplexRpc.Text.Blank

/-!
Reading messages from values. Which fields are there tells the kind of a message. A field that is
null counts as absent, except for parameters and results.
-/

namespace DuplexRpc

/-- Why a value is no message. -/
inductive Rejection where
  | notObject (v : Value)
  | unsupportedVersion (found : Value)
  | mismatch (m : Mismatch)
  | neitherIdNorMethod
  | inconsistent

namespace Rejection

def message : Rejection → String
  | .notObject v => "message is not an object: " ++ Json.text v
  | .unsupportedVersion found => "unsupported jsonrpc version: " ++ Json.text found
  | .mismatch m => m.message
  | .neitherIdNorMethod => "message has neither id nor method"
  | .inconsistent => "inconsistent combination of message fields"

def toError (r : Rejection) : RpcError :=
  .parse r.message

end Rejection

/-- The fields of a message before its kind is known. -/
structure RawMessage where
  id : Option Id := none
  method : Option String := none
  params : Option Value := none
  result : Option Value := none
  error : Option RpcError := none

namespace RawMessage

/-- The fields of a message, each of which may be absent. -/
def decoder : Decoder RawMessage :=
  .record "RawMessage"
    [.optional "id" (.optional Id.decoder) fun id m => { m with id },
      .optional "method" (.optional .string) fun method m => { m with method },
      .optional "params" .value fun params m => { m with params := some params },
      .optional "result" .value fun result m => { m with result := some result },
      .optional "error" (.optional RpcError.decoder) fun error m => { m with error }]
    {}

def classify (raw : RawMessage) : Except Rejection Message :=
  match raw.id, raw.method, raw.result, raw.error with
  | none, none, _, _ => .error .neitherIdNorMethod
  | some id, some method, none, none => .ok (.request { id, method, params := raw.params })
  | none, some method, none, none => .ok (.notification { method, params := raw.params })
  | some id, none, some v, none => .ok (.response ⟨id, .ok v⟩)
  | some id, none, none, some e => .ok (.response ⟨id, .error e⟩)
  | _, _, _, _ => .error .inconsistent

end RawMessage

namespace Message

/-- The value names the version of the protocol. -/
def checkVersion (fields : List (String × Value)) : Except Rejection Unit :=
  match Fields.get? "jsonrpc" fields with
  | some (.str v) => if v = version then .ok () else .error (.unsupportedVersion (.str v))
  | found => .error (.unsupportedVersion (found.getD .null))

/-- Reads a message from a value, or tells why it is none. -/
def ofValue? (v : Value) : Except Rejection Message :=
  match v with
  | .obj fields =>
    match checkVersion fields with
    | .error r => .error r
    | .ok () =>
      match RawMessage.decoder.ofValue v with
      | .error m => .error (.mismatch m)
      | .ok raw => raw.classify
  | v => .error (.notObject v)

def ofValue (v : Value) : Except RpcError Message :=
  (ofValue? v).mapError Rejection.toError

/-- Decodes a message after reading it as a value. -/
def decoder : Decoder Message :=
  .buffered fun v => (ofValue? v).mapError fun r => .refused r.toError.text

/-- Reads a message from JSON text. A blank text is no message. -/
def parse (text : String) : Except RpcError Message :=
  if Text.isBlankText text then .error (.parse "empty message")
  else
    let bytes := Text.utf8 text
    match Json.parse bytes with
    | .error e => .error (.parse (e.message bytes))
    | .ok v => ofValue v

/-- The id to answer to where a value is no message: that of an object with a method, whatever the
method is. -/
def requestId? : Value → Option Id
  | .obj fields =>
    match Fields.get? "method" fields, Fields.get? "id" fields with
    | some _, some id => Id.ofValue? id
    | _, _ => none
  | _ => none

end Message

end DuplexRpc

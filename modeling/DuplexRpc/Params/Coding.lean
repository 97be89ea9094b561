import DuplexRpc.Datum
import DuplexRpc.Error.Basic

/-!
Arguments and results between values and the data of the host. A failure is the error that the other
side is told.
-/

namespace DuplexRpc

def decodeParam {α : Type} (d : Decoder α) (name : String) (v : Value) : Except RpcError α :=
  (d.ofValue v).mapError fun m => .invalidParams s!"invalid param `{name}`: {m.message}"

def encodeArgument (d : Datum) : Except RpcError Value :=
  d.encode.mapError fun e => .invalidParams e.message

def encodeResult (d : Datum) : Except RpcError Value :=
  d.encode.mapError fun e => .internal s!"failed to encode result: {e.message}"

def decodeResult {α : Type} (d : Decoder α) (v : Value) : Except RpcError α :=
  (d.ofValue v).mapError fun m => .internal s!"failed to decode result: {m.message}"

end DuplexRpc

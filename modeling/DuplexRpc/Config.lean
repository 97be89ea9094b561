import DuplexRpc.Codec
import DuplexRpc.Decode.Record
import DuplexRpc.Duration.Text

/-!
Configurations of endpoints and of clients. Every field may be left out.
-/

namespace DuplexRpc

/-- How an endpoint is set up. -/
structure EndpointConfig where
  /-- The first id of its requests. -/
  initialId : Int64 := 0
  codec : Codec := .json
  /-- The longest frame that it sends or takes from a stream. -/
  maxFrameSize : UInt64 := 67108864
deriving DecidableEq, Repr

namespace EndpointConfig

def decoder : Decoder EndpointConfig :=
  .record "EndpointConfig"
    [.optional "initial_id" .int64 fun initialId c => { c with initialId },
      .optional "codec" Codec.decoder fun codec c => { c with codec },
      .optional "max_frame_size" .size fun maxFrameSize c => { c with maxFrameSize }]
    {}

/-- A configuration as a value, its fields in order. -/
def layout (c : EndpointConfig) : Value :=
  .obj
    [("initial_id", .ofInt64 c.initialId), ("codec", .str c.codec.wireName),
      ("max_frame_size", .ofUInt64 c.maxFrameSize)]

def describe (c : EndpointConfig) : String :=
  s!"EndpointConfig \x7b initial_id: {c.initialId.toInt}, codec: {c.codec.name}, " ++
    s!"max_frame_size: {c.maxFrameSize.toNat} \x7d"

end EndpointConfig

/-- How a client makes its calls. -/
structure Client where
  /-- How long it waits where a method does not say. -/
  timeout : Option Duration := none
deriving DecidableEq, Repr

namespace Client

def decoder : Decoder Client :=
  .record "Client"
    [.optional "timeout" (.optional Duration.decoder) fun timeout c => { c with timeout }] {}

def layout (c : Client) : Value :=
  .obj [("timeout", (c.timeout.map fun d => Value.str d.text).getD .null)]

end Client

end DuplexRpc

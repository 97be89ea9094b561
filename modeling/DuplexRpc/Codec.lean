import DuplexRpc.MessagePack.Value
import DuplexRpc.Message.Reading

/-!
The two wire formats. A frame holds one message; a blank frame holds none in either format.
-/

namespace DuplexRpc

/-- A wire format. -/
inductive Codec where
  | json
  | messagePack
deriving DecidableEq, Repr

namespace Codec

/-- The name of a format in configurations. -/
def wireName : Codec → String
  | .json => "json"
  | .messagePack => "messagepack"

/-- The name of a format in messages. -/
def name : Codec → String
  | .json => "Json"
  | .messagePack => "MessagePack"

def decoder : Decoder Codec :=
  .choice [("json", .json), ("messagepack", .messagePack), ("msgpack", .messagePack)]

/-- A value in a format, the entries of objects in their order. -/
def write : Codec → Value → List UInt8
  | .json => Json.write
  | .messagePack => MessagePack.write

def encode (codec : Codec) (m : Message) : List UInt8 :=
  codec.write m.layout

def read (codec : Codec) (frame : List UInt8) : Except RpcError Value :=
  match codec with
  | .json => (Json.parse frame).mapError fun e => .parse (e.message frame)
  | .messagePack => (MessagePack.parse frame).mapError fun e => .parse e.message

def decodeValue (codec : Codec) (frame : List UInt8) : Except RpcError Value :=
  if Text.isBlankFrame frame then .error (.parse "empty message") else codec.read frame

def decode (codec : Codec) (frame : List UInt8) : Except RpcError Message :=
  match codec.decodeValue frame with
  | .error e => .error e
  | .ok v => Message.ofValue v

end Codec

end DuplexRpc

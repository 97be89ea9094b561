import DuplexRpc.Config
import DuplexRpc.Params.Packing

/-!
The types that arguments and results are carried as. Each reads what it accepts and writes it out
again, its fields in the order of their declaration.
-/

namespace DuplexRpc

/-- A count and where it comes from. -/
structure Tick where
  count : UInt64
  source : String
deriving DecidableEq, Repr

namespace Tick

def decoder : Decoder Tick :=
  .record "Tick"
    [.required "count" .uint64 fun count t => { t with count },
      .required "source" .string fun source t => { t with source }]
    ⟨0, ""⟩

/-- A tick as a value, its fields in order. -/
def layout (t : Tick) : Value :=
  .obj [("count", .ofUInt64 t.count), ("source", .str t.source)]

end Tick

namespace Carried

/-- A list of values that are each written out in the same way. -/
def listOf {α : Type} (write : α → Value) (d : Decoder α) : Decoder Value :=
  d.list.map fun xs => .arr (xs.map write)

def ofUInt8 (n : UInt8) : Value :=
  .ofUInt64 n.toUInt64

/-- What the types of each name accept, written out again. -/
def table : List (String × Decoder Value) :=
  [("value", .value),
    ("unit", Decoder.unit.map fun _ => .null),
    ("bool", Decoder.bool.map .bool),
    ("i8", Decoder.int8.map fun n => .ofInt64 n.toInt64),
    ("i64", Decoder.int64.map .ofInt64),
    ("u8", Decoder.uint8.map ofUInt8),
    ("u64", Decoder.uint64.map .ofUInt64),
    ("f64", Decoder.double.map .ofDouble),
    ("string", Decoder.string.map .str),
    ("option_i64", Decoder.int64.optional.map fun n => (n.map Value.ofInt64).getD .null),
    ("option_u8", Decoder.uint8.optional.map fun n => (n.map ofUInt8).getD .null),
    ("vec_string", listOf .str .string),
    ("vec_i64", listOf .ofInt64 .int64),
    ("vec_u8", listOf ofUInt8 .uint8),
    ("tuple", (Decoder.int64.pair .string).map fun (n, s) => .arr [.ofInt64 n, .str s]),
    ("map", Decoder.int64.entries.map fun fs => .obj (fs.map fun (name, n) => (name, .ofInt64 n))),
    ("tick", Tick.decoder.map Tick.layout),
    ("id", Id.decoder.map Id.toValue),
    ("error", RpcError.decoder.map RpcError.layout),
    ("message", Message.decoder.map Message.layout),
    ("codec", Codec.decoder.map fun c => .str c.wireName),
    ("packing", Packing.decoder.map fun p => .str p.name),
    ("config", EndpointConfig.decoder.map EndpointConfig.layout),
    ("client", Client.decoder.map Client.layout)]

/-- What the type of a name accepts. -/
def decoder? (name : String) : Option (Decoder Value) :=
  table.lookup name

end Carried

end DuplexRpc

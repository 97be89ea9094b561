import DuplexRpc.Carried
import DuplexRpc.Error.Description
import DuplexRpc.Handler.Script

/-!
Sample handlers: small functions that show each way in which a handler can end, wait, and call back.
-/

namespace DuplexRpc.Sample

/-- A failure with a text of its own. -/
def failText (s : String) : Script :=
  .fail (ErrorChain.plain s).resolve

/-- The sum or another result of integers, a failure where it is too large. -/
def checked (i : Int) (overflow : Script) : Script :=
  if -0x8000000000000000 ≤ i ∧ i < 0x8000000000000000 then .return_ (.int i) else overflow

/-- Gives the parameters back as they came. -/
def echo : Handler := fun _ params =>
  .return_ (.value (.ofFields
    [("params", params.getD .null), ("present", .bool params.isSome)]))

def add : Handler :=
  .ofFunction (Decoder.pair .int64 .int64) fun _ (a, b) =>
    checked (a.toInt + b.toInt) (failText "overflow")

/-- Two numbers; the second is zero where it is left out. -/
structure Pair where
  a : Int64 := 0
  b : Int64 := 0

def Pair.decoder : Decoder Pair :=
  .record "Pair"
    [.required "a" .int64 fun a p => { p with a }, .optional "b" .int64 fun b p => { p with b }] {}

def sub : Handler :=
  .ofFunction Pair.decoder fun _ p =>
    checked (p.a.toInt - p.b.toInt) (failText "overflow")

def concat : Handler :=
  .ofFunction (Decoder.list .string) fun _ texts => .return_ (.value (.str (String.join texts)))

/-- Gives a small number or null back. -/
def optional : Handler :=
  .ofFunction (Decoder.optional .uint8) fun _ n =>
    .return_ ((n.map fun n => Datum.int n.toNat).getD (.value .null))

/-- Fails with the errors that are described. -/
def fail : Handler :=
  .ofFunction .value fun _ v => .fail (ErrorChain.ofDescription v).resolve

def raiseDecoder : Decoder RpcError :=
  .record "Raise"
    [.required "code" .int64 fun code e => { e with kind := .ofCode code },
      .required "message" .string fun message e => { e with message },
      .named "data" (.optional .value) fun data e => { e with data }]
    (.ofKind .internalError)

/-- Fails with an error of the protocol. -/
def raise : Handler :=
  .ofFunction raiseDecoder fun _ e => .fail e

/-- Panics with a text, with a fixed text for null, or with something else. -/
def panic : Handler :=
  .ofFunction .value fun _ v =>
    .panic (match v with
      | .str s => .text s
      | .null => .text "static"
      | _ => .other)

def badKeys : Handler :=
  .ofFunction .value fun _ _ => .return_ (.map [(.composite, .int 1)])

def context : Handler :=
  .ofFunction .value fun ctx _ =>
    .look fun view =>
      .return_ (.value (.ofFields
        [("method", .str ctx.method), ("id", (ctx.id.map fun id => Value.str id.text).getD .null),
          ("notification", .bool ctx.id.isNone),
          ("pending", .bool ((ctx.id.map view.isPending).getD false))]))

def gate : Handler :=
  .ofFunction .string fun _ name => .pass name fun v => .done (.ok v)

/-- A call that is to be made in return. -/
structure Callback where
  method : String := ""
  params : Option Value := none

def Callback.decoder : Decoder Callback :=
  .record "Callback"
    [.required "method" .string fun method c => { c with method },
      .named "params" (.optional .value) fun params c => { c with params }]
    {}

def Callback.launch (c : Callback) : Launch :=
  .plain c.method c.params none "Value"

/-- Calls the other side and gives its answer. -/
def callPeer : Handler :=
  .ofFunction Callback.decoder fun _ c => .request c.launch .done

def notifyPeer : Handler :=
  .ofFunction Callback.decoder fun _ c =>
    .notify c.launch fun r => .done (r.map fun _ => .null)

def finished : Script :=
  .done (.ok .null)

def logParams (tag : Value) : Handler := fun ctx params =>
  .log (.ofFields
    ([("tag", tag), ("method", .str ctx.method), ("notification", .bool ctx.id.isNone)] ++
      (params.map fun v => ("params", v)).toList)) finished

def logTick (tag : Value) : Handler :=
  .ofFunction Tick.decoder fun _ t =>
    .log (.ofFields [("tag", tag), ("count", .ofUInt64 t.count), ("source", .str t.source)])
      finished

def logPair (tag : Value) : Handler :=
  .ofFunction (Decoder.pair .int64 .int64) fun _ (a, b) =>
    .log (.ofFields [("tag", tag), ("a", .ofInt64 a), ("b", .ofInt64 b)]) finished

def reject : Handler :=
  .ofFunction .value fun _ _ => failText "rejected"

/-- Panics unless it is told to be calm. -/
def panicUnlessCalm : Handler :=
  .ofFunction .value fun _ v =>
    match v with
    | .str "calm" => finished
    | _ => .panic .other

/-- Waits at a gate, and logs its value. -/
def logGate (tag : Value) : Handler :=
  .ofFunction .string fun _ name =>
    .pass name fun v => .log (.ofFields [("tag", tag), ("gate", v)]) finished

def requestHandlers : List (String × Handler) :=
  [("echo", echo), ("add", add), ("sub", sub), ("concat", concat), ("optional", optional),
    ("fail", fail), ("raise", raise), ("panic", panic), ("badkeys", badKeys), ("ctx", context),
    ("gate", gate), ("call_peer", callPeer), ("notify_peer", notifyPeer)]

/-- The sample handlers for notifications, which put a tag into what they log. -/
def notificationHandlers : List (String × (Value → Handler)) :=
  [("log", logParams), ("tick", logTick), ("pair", logPair), ("fail", fun _ => reject),
    ("panic", fun _ => panicUnlessCalm), ("gate", logGate)]

end DuplexRpc.Sample

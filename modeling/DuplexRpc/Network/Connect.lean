import DuplexRpc.Network.Settle

/-!
Building networks: a lone endpoint whose messages are recorded, two endpoints joined by queues or by
a stream, and an endpoint whose stream ends outside of the network.
-/

namespace DuplexRpc

open ByteStream

/-- What an endpoint is made of, save for its transport. -/
structure Setup where
  config : EndpointConfig := {}
  registry : Registry := {}
  /-- Where its ids come from, if they do not count up. -/
  ids : Option IdSource := none

namespace Setup

/-- The node of an endpoint without background loops. -/
def node (s : Setup) (transport : Transport) : Node :=
  { endpoint := .create s.config s.registry transport s.ids }

/-- The node of an endpoint that handles the frames of an inbox. -/
def queueNode (s : Setup) : Node :=
  { s.node (.queue s.config.codec none {}) with receiving := true }.superviseStart

/-- The longest frame on a stream: its length has to fit into the header. -/
def frameLimit (s : Setup) : Nat :=
  min s.config.maxFrameSize.toNat (1 <<< (8 * headerSize) - 1)

/-- The node of an endpoint that works over a stream. -/
def streamNode (s : Setup) (faults : Faults) : Node :=
  { s.node (.queue s.config.codec (some s.frameLimit) {}) with
    receiving := true
    writer := some .idle
    reader := some ({ limit := s.frameLimit }, 0)
    faults }.superviseStart.superviseStart.superviseStart

end Setup

/-- Which executors an endpoint is given for its tasks. One alone serves both kinds of tasks. -/
structure Executors where
  forRequests : Bool := false
  forNotifications : Bool := false

namespace Executors

/-- An endpoint that is given no executor needs a runtime around it. -/
def check (e : Executors) (insideRuntime : Bool) : Except RpcError Unit :=
  if e.forRequests || e.forNotifications || insideRuntime then .ok ()
  else
    .error (.internal
      "there is no reactor running, must be called from the context of a Tokio 1.x runtime")

end Executors

namespace Network

def lone (s : Setup) : Network :=
  { a := s.node (.recorder [] none) }

/-- Two endpoints joined by queues, which must use the same format. -/
def connect (a b : Setup) : Except RpcError Network :=
  if a.config.codec = b.config.codec then
    .ok { a := a.queueNode, b := some b.queueNode, link := .queues }
  else
    .error (.internal s!"codec mismatch: {a.config.codec.name} vs {b.config.codec.name}")

/-- A stream that holds at most `capacity` bytes on their way in each direction. -/
def freshStream (capacity : Nat) : Link :=
  .stream { capacity } { capacity }

def connectStream (a b : Setup) (capacity : Nat) : Network :=
  { a := a.streamNode {}, b := some (b.streamNode {}), link := freshStream capacity }

/-- An endpoint whose stream ends outside of the network. -/
def attach (a : Setup) (capacity : Nat) (faults : Faults) : Network :=
  { a := a.streamNode faults, link := freshStream capacity }

end Network

end DuplexRpc

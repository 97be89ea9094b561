import DuplexRpc.Network.Task
import DuplexRpc.ByteStream.Pipe
import DuplexRpc.ByteStream.Reading
import DuplexRpc.ByteStream.Writing

/-!
Nodes: an endpoint with the tasks and the background loops that work for it. A node takes part while
its owner or a task holds its endpoint. Each background loop is supervised: it ends when the
endpoint is asked to stop, whatever it is doing.
-/

namespace DuplexRpc

open ByteStream

/-- An endpoint and all that works for it. -/
structure Node where
  endpoint : Endpoint
  /-- The owner of the endpoint has not let go of it. -/
  held : Bool := true
  tasks : List Task := []
  /-- The supervisor's sentinel has not ended. -/
  sentinel : Bool := true
  /-- The loop that handles the frames of the inbox is running. -/
  receiving : Bool := false
  /-- Frames read from a stream and not yet handled. -/
  inbox : Mailbox := {}
  /-- The loop that writes frames to a stream, while it is running. -/
  writer : Option FrameWriter := none
  /-- The loop that reads frames from a stream, while it is running, and how many bytes it has
  read. -/
  reader : Option (FrameReader × Nat) := none
  /-- What goes wrong at this end of a stream. -/
  faults : Faults := {}

namespace Node

def isHeld (n : Node) : Bool :=
  n.held || !n.tasks.isEmpty

/-- The background loops are asked to stop. -/
def isStopped (n : Node) : Bool :=
  n.endpoint.isStopped

def mapEndpoint (n : Node) (f : Endpoint → Endpoint) : Node :=
  { n with endpoint := f n.endpoint }

/-- Lets go of the endpoint if nobody holds it any more, `n` being the node before. -/
def releaseFrom (n m : Node) : Node :=
  if n.isHeld && !m.isHeld then m.mapEndpoint Endpoint.release else m

/-- The owner lets go of the endpoint. -/
def letGo (n : Node) : Node :=
  n.releaseFrom { n with held := false }

def removeTask (n : Node) (serial : Nat) : Node :=
  n.releaseFrom { n with tasks := n.tasks.filter (·.serial != serial) }

def setStand (n : Node) (serial : Nat) (stand : Stand) : Node :=
  { n with tasks := n.tasks.map fun t => if t.serial = serial then { t with stand } else t }

def superviseStart (n : Node) : Node :=
  n.mapEndpoint fun e => { e with supervisor := e.supervisor.start }

def superviseFinish (n : Node) : Node :=
  n.mapEndpoint fun e => { e with supervisor := e.supervisor.finish }

/-- All background loops are asked to stop. -/
def requestStop (n : Node) : Node :=
  n.mapEndpoint fun e => { e with supervisor := e.supervisor.stop }

def endSentinel (n : Node) : Node :=
  { n with sentinel := false }.superviseFinish

/-- The loop that handles frames ends: the endpoint is stopped with it. -/
def endReceiving (n : Node) : Node :=
  { n with receiving := false }.mapEndpoint Endpoint.stop |>.superviseFinish

/-- The loop that writes frames ends: nothing that is posted will leave any more, and the endpoint
is asked to stop. -/
def endWriting (n : Node) : Node :=
  { n with writer := none }.mapEndpoint (fun e =>
    { e with transport := e.transport.mapBox Mailbox.close }) |>.requestStop |>.superviseFinish

/-- The loop that reads frames ends: nothing more will come into the inbox. -/
def endReading (n : Node) : Node :=
  { n with reader := none, inbox := { n.inbox with senderGone := true } }.superviseFinish

/-- The stream is no longer used at this end. -/
def isDetached (n : Node) : Bool :=
  n.writer.isNone && n.reader.isNone

def note (n : Node) (x : Note) : Node :=
  n.mapEndpoint (·.note x)

/-- Why a stream could not be read. -/
def readError (kind : IoKind) : RpcError :=
  (ErrorChain.io kind).resolve

/-- Why a stream could not be written. -/
def writeError (kind : IoKind) : RpcError :=
  .sendFailed kind.text

/-- Takes frames for the inbox. None are taken once nobody handles them. -/
def receiveFrames (n : Node) (frames : List Frame) : Node :=
  if n.inbox.receiverGone then n
  else { n with inbox := { n.inbox with frames := n.inbox.frames ++ frames } }

end Node

end DuplexRpc

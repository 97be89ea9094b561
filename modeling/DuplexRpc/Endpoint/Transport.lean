import DuplexRpc.Codec

/-!
Where an endpoint posts its messages: a record of them, or a queue of frames that someone else takes
from.
-/

namespace DuplexRpc

/-- A frame as it is carried. -/
abbrev Frame :=
  List UInt8

/-- A queue of frames between one that puts in and one that takes out, either of which may be
gone. -/
structure Mailbox where
  frames : List Frame := []
  senderGone : Bool := false
  receiverGone : Bool := false
deriving DecidableEq, Repr

namespace Mailbox

/-- Puts a frame in, none where it can no longer be taken out. -/
def send? (box : Mailbox) (frame : Frame) : Option Mailbox :=
  if box.receiverGone then none else some { box with frames := box.frames ++ [frame] }

def isOver (box : Mailbox) : Bool :=
  box.frames.isEmpty && box.senderGone

/-- The receiver goes, and with it the frames that it has not taken. -/
def close (box : Mailbox) : Mailbox :=
  { box with frames := [], receiverGone := true }

end Mailbox

/-- Where messages are posted. -/
inductive Transport where
  /-- Keeps the messages, or fails with an error. -/
  | recorder (posted : List Message) (failure : Option RpcError)
  /-- Encodes messages into frames, which may have a greatest length. -/
  | queue (codec : Codec) (limit : Option Nat) (box : Mailbox)

namespace Transport

/-- Posts a message. A frame that is too long is refused before a connection that is closed. -/
def post (t : Transport) (m : Message) : Except RpcError Transport :=
  match t with
  | .recorder posted none => .ok (.recorder (posted ++ [m]) none)
  | .recorder _ (some e) => .error e
  | .queue codec limit box =>
    let frame := codec.encode m
    if limit.any (· < frame.length) then
      .error (.sendFailed s!"frame is too long: {frame.length}")
    else
      match box.send? frame with
      | some box => .ok (.queue codec limit box)
      | none => .error (.sendFailed "connection closed")

/-- From now on posting to a record fails with an error, or works again. -/
def failWith (failure : Option RpcError) : Transport → Transport
  | .recorder posted _ => .recorder posted failure
  | t => t

def posted : Transport → List Message
  | .recorder posted _ => posted
  | .queue _ _ _ => []

def clear : Transport → Transport
  | .recorder _ failure => .recorder [] failure
  | t => t

def mapBox (f : Mailbox → Mailbox) : Transport → Transport
  | .queue codec limit box => .queue codec limit (f box)
  | t => t

/-- The queue, an empty one where messages are recorded. -/
def box : Transport → Mailbox
  | .queue _ _ box => box
  | .recorder _ _ => {}

end Transport

end DuplexRpc

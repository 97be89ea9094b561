import DuplexRpc.Network.Basic

/-!
The steps of a network: what each agent can do, one small step at a time. An agent that cannot go on
leaves the network as it is.
-/

namespace DuplexRpc

open ByteStream

namespace Network

/-- The outcome of a task that ends. -/
def endTask (net : Network) (side : Side) (t : Task) (ending : Ending) : Network :=
  let net :=
    match t.role with
    | .handler origin =>
      net.mapNode side fun n => n.mapEndpoint (·.finish origin ending)
    | .caller => { net with endings := net.endings ++ [(t.serial, ending.toOutcome)] }
  net.mapNode side (·.removeTask t.serial)

def stepScript (net : Network) (side : Side) (n : Node) (t : Task) : Script → Network
  | .done outcome => net.endTask side t (.outcome outcome)
  | .panic payload => net.endTask side t (.panic payload)
  | .log entry next =>
    { net.mapNode side (·.setStand t.serial (.going next)) with log := net.log ++ [entry] }
  | .wait gate next => net.arriveAtGate side t.serial gate next
  | .request launch next =>
    let (call, endpoint) := n.endpoint.launch net.clock launch
    net.mapNode side fun n =>
      { n with endpoint }.setStand t.serial (.awaiting call next)
  | .notify launch next =>
    let (r, endpoint) := n.endpoint.announce launch
    net.mapNode side fun n => { n with endpoint }.setStand t.serial (.going (next r))
  | .look next =>
    net.mapNode side (·.setStand t.serial (.going (next n.endpoint.view)))

def stepTask (net : Network) (side : Side) (n : Node) (t : Task) : Network :=
  match t.stand with
  | .going script => net.stepScript side n t script
  | .atGate _ _ => net
  | .awaiting call next =>
    match n.endpoint.poll call with
    | (some outcome, _, endpoint) =>
      net.mapNode side fun n => { n with endpoint }.setStand t.serial (.going (next outcome))
    | (none, _, _) => net

def endReceiving (net : Network) (side : Side) : Network :=
  (net.mapNode side Node.endReceiving).mapInbox side Mailbox.close

/-- The loop that handles frames goes on: it handles the next frame, or ends where none will come or
nobody holds the endpoint. -/
def stepReceiving (net : Network) (side : Side) (n : Node) (heeds : Bool) : Network :=
  if n.isStopped && heeds then net.endReceiving side
  else
    let box := net.inbox side
    match box.frames with
    | frame :: _ =>
      let net := net.mapInbox side fun box => { box with frames := box.frames.drop 1 }
      if n.isHeld then net.atEndpoint side (·.handleFrame frame)
      else (net.mapNode side (·.note .receivingEnded)).endReceiving side
    | [] =>
      if box.senderGone then (net.mapNode side (·.note .receivingEnded)).endReceiving side else net

def endWriting (net : Network) (side : Side) : Network :=
  (net.mapNode side Node.endWriting).detach side

def failWriting (net : Network) (side : Side) (e : RpcError) : Network :=
  (net.mapNode side (·.note (.writingFailed e))).endWriting side

/-- Goes on after a write, a batch that is through being flushed. -/
def afterWrite (net : Network) (side : Side) (faults : Faults) (n : Nat)
    (slices : List (List UInt8)) : Network :=
  match FrameWriter.wrote n slices with
  | .error e => net.failWriting side e
  | .ok .idle =>
    match faults.flush with
    | some kind => net.failWriting side (Node.writeError kind)
    | none => net.mapNode side fun n => { n with writer := some .idle }
  | .ok w => net.mapNode side fun n => { n with writer := some w }

/-- The loop that writes frames goes on: it takes a batch, writes some of it, or ends where nothing
more will be posted. -/
def stepWriting (net : Network) (side : Side) (n : Node) (w : FrameWriter) (heeds : Bool) :
    Network :=
  if n.isStopped && heeds then net.endWriting side
  else
    match w with
    | .idle =>
      let box := n.endpoint.transport.box
      match box.frames with
      | [] =>
        if box.senderGone then (net.mapPipeFrom side Pipe.closeWriter).endWriting side else net
      | frames =>
        net.mapNode side fun n =>
          { n with writer := some (.load (frames.take batchLimit)) }.mapEndpoint fun e =>
            { e with
              transport := e.transport.mapBox fun box =>
                { box with frames := box.frames.drop batchLimit } }
    | .writing slices =>
      match net.pipeFrom? side with
      | none => net
      | some pipe =>
        match n.faults.write? pipe slices.flatten with
        | .blocked => net
        | .failed kind => net.failWriting side (Node.writeError kind)
        | .done (count, pipe) =>
          (net.mapPipeFrom side fun _ => pipe).afterWrite side n.faults count slices

def endReading (net : Network) (side : Side) : Network :=
  (net.mapNode side Node.endReading).detach side

/-- The loop that reads frames ends with an outcome of its own. -/
def finishReading (net : Network) (side : Side) (ending : Except RpcError Unit) : Network :=
  let note :=
    match ending with
    | .ok () => Note.readingEnded
    | .error e => .readingFailed e
  (net.mapNode side (·.note note)).endReading side

def afterRead (net : Network) (side : Side) (r : FrameReader) (before : Nat)
    (piece : List UInt8) : Network :=
  if piece.isEmpty then net.finishReading side r.finish
  else
    let (frames, r) := r.feed piece
    if (net.inbox side).receiverGone ∧ ¬ frames.isEmpty then net.finishReading side (.ok ())
    else
      let net := net.mapNode side (·.receiveFrames frames)
      match r with
      | .error e => net.finishReading side (.error e)
      | .ok r => net.mapNode side fun n => { n with reader := some (r, before + piece.length) }

/-- The loop that reads frames goes on. -/
def stepReading (net : Network) (side : Side) (n : Node) (r : FrameReader) (before : Nat)
    (heeds : Bool) : Network :=
  if n.isStopped && heeds then net.endReading side
  else
    match net.pipeFrom? side.other with
    | none => net
    | some pipe =>
      match n.faults.read? pipe before with
      | .blocked => net
      | .failed kind => net.finishReading side (.error (Node.readError kind))
      | .done (piece, pipe) =>
        (net.mapPipeFrom side.other fun _ => pipe).afterRead side r before piece

def step (net : Network) : Agent → Network
  | .sentinel side =>
    match net.node? side with
    | some n => if n.sentinel && n.isStopped then net.mapNode side Node.endSentinel else net
    | none => net
  | .receiving side heeds =>
    match net.node? side with
    | some n => if n.receiving then net.stepReceiving side n heeds else net
    | none => net
  | .writing side heeds =>
    match net.node? side with
    | some n =>
      match n.writer with
      | some w => net.stepWriting side n w heeds
      | none => net
    | none => net
  | .reading side heeds =>
    match net.node? side with
    | some n =>
      match n.reader with
      | some (r, before) => net.stepReading side n r before heeds
      | none => net
    | none => net
  | .task side serial =>
    match net.node? side with
    | some n =>
      match n.tasks.find? (·.serial == serial) with
      | some t => net.stepTask side n t
      | none => net
    | none => net
  | .timer side ticket =>
    match net.node? side with
    | some n =>
      match n.endpoint.pool.timers.find? fun t => t.ticket == ticket && t.deadline ≤ net.clock with
      | some t => net.mapNode side fun n => n.mapEndpoint (·.expire t)
      | none => net
    | none => net

end Network

end DuplexRpc

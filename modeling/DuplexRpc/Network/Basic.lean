import DuplexRpc.Network.Node

/-!
Networks: one node, or two nodes joined by queues or by a stream, or a node whose stream ends
outside of the network. All nodes share the gates, the clock and the log.
-/

namespace DuplexRpc

open ByteStream

/-- The nodes of a network. -/
inductive Side where
  | a
  | b
deriving DecidableEq, Repr

def Side.other : Side → Side
  | .a => .b
  | .b => .a

/-- What carries the frames of the nodes. -/
inductive Link where
  /-- Nothing: messages are recorded where they are posted. -/
  | none
  /-- Each node takes from the queue that the other one posts to. -/
  | queues
  /-- Two pipes, named for the node that writes to them. The other end may lie outside. -/
  | stream (fromA fromB : Pipe)

/-- What can go on in a network by itself. A supervised loop may or may not heed a request to stop
where it could go on as well. -/
inductive Agent where
  | sentinel (side : Side)
  | receiving (side : Side) (heeds : Bool)
  | writing (side : Side) (heeds : Bool)
  | reading (side : Side) (heeds : Bool)
  | task (side : Side) (serial : Nat)
  | timer (side : Side) (ticket : Nat)
deriving DecidableEq, Repr

/-- Nodes and what they share. -/
structure Network where
  a : Node
  b : Option Node := none
  link : Link := .none
  /-- The gates at which tasks wait, by name. -/
  gates : List (String × Nat) := []
  /-- The next serial number of a task, and the next ticket of a gate. -/
  nextSerial : Nat := 0
  /-- Nanoseconds. -/
  clock : Nat := 0
  log : List Value := []
  /-- How the tasks ended that ran on behalf of a caller, by serial number. -/
  endings : List (Nat × Outcome) := []
  /-- The agents that can go on, in the order in which they became able to. -/
  queue : List Agent := []

namespace Network

def node? (net : Network) : Side → Option Node
  | .a => some net.a
  | .b => net.b

def mapNode (net : Network) (side : Side) (f : Node → Node) : Network :=
  match side with
  | .a => { net with a := f net.a }
  | .b => { net with b := net.b.map f }

/-- The pipe that a side writes to. -/
def pipeFrom? (net : Network) (side : Side) : Option Pipe :=
  match net.link, side with
  | .stream fromA _, .a => some fromA
  | .stream _ fromB, .b => some fromB
  | _, _ => none

/-- Changes the pipe that a side writes to. -/
def mapPipeFrom (net : Network) (side : Side) (f : Pipe → Pipe) : Network :=
  match net.link, side with
  | .stream fromA fromB, .a => { net with link := .stream (f fromA) fromB }
  | .stream fromA fromB, .b => { net with link := .stream fromA (f fromB) }
  | _, _ => net

/-- The queue that the frames of a side come in by. -/
def inbox (net : Network) (side : Side) : Mailbox :=
  match net.link with
  | .queues => ((net.node? side.other).map fun n => n.endpoint.transport.box).getD {}
  | _ => ((net.node? side).map Node.inbox).getD {}

/-- Changes the queue that the frames of a side come in by. -/
def mapInbox (net : Network) (side : Side) (f : Mailbox → Mailbox) : Network :=
  match net.link with
  | .queues =>
    net.mapNode side.other fun n => n.mapEndpoint fun e =>
      { e with transport := e.transport.mapBox f }
  | _ => net.mapNode side fun n => { n with inbox := f n.inbox }

/-- A side no longer uses the stream once neither of its loops does. -/
def detach (net : Network) (side : Side) : Network :=
  match net.node? side with
  | some n =>
    if n.isDetached then
      (net.mapPipeFrom side Pipe.closeWriter).mapPipeFrom side.other Pipe.closeReader
    else net
  | none => net

/-- Gives a task up that ran on behalf of a caller: what it waits for is given up too. -/
def abort (net : Network) (side : Side) (serial : Nat) : Network :=
  let drop (n : Node) : Node :=
    match n.tasks.find? (·.serial == serial) with
    | some { stand := .awaiting call _, .. } => n.mapEndpoint (·.drop call)
    | _ => n
  net.mapNode side fun n => (drop n).removeTask serial

def spawn (net : Network) (side : Side) (role : Role) (script : Script) : Network :=
  let serial := net.nextSerial
  { net.mapNode side fun n => { n with tasks := n.tasks ++ [⟨serial, role, .going script⟩] } with
    nextSerial := serial + 1 }

/-- Adds the jobs of an endpoint as tasks to its node. -/
def spawnJobs (net : Network) (side : Side) (jobs : List Job) : Network :=
  jobs.foldl (fun net job => net.spawn side (.handler job.origin) job.script) net

/-- Lets an endpoint do something that may start jobs. -/
def atEndpoint (net : Network) (side : Side) (f : Endpoint → Endpoint × List Job) : Network :=
  match net.node? side with
  | some n =>
    let (endpoint, jobs) := f n.endpoint
    (net.mapNode side fun n => { n with endpoint }).spawnJobs side jobs
  | none => net

/-- Lets the task that waits at a gate go on. -/
def openGate (net : Network) (ticket : Nat) (opening : Opening) : Network :=
  let pass (n : Node) : Node := { n with tasks := n.tasks.map (·.open_ ticket opening) }
  (net.mapNode .a pass).mapNode .b pass

/-- Some task waits at the gate with the ticket. -/
def isAwaited (net : Network) (ticket : Nat) : Bool :=
  let waits (n : Node) : Bool := n.tasks.any (·.isAtGate ticket)
  waits net.a || net.b.any waits

/-- Puts a task at a gate. Whoever waited at the gate of that name before waits in vain. -/
def arriveAtGate (net : Network) (side : Side) (serial : Nat) (gate : String)
    (next : Opening → Script) : Network :=
  let ticket := net.nextSerial
  let net :=
    match net.gates.lookup gate with
    | some earlier => net.openGate earlier .dropped
    | none => net
  { net.mapNode side (·.setStand serial (.atGate ticket next)) with
    gates := (gate, ticket) :: net.gates.filter (·.1 != gate)
    nextSerial := ticket + 1 }

end Network

end DuplexRpc

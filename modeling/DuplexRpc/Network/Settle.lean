import DuplexRpc.Network.Step

/-!
Letting a network settle: agents that can go on take turns, in the order in which they became able
to, until none can. In its turn an agent takes all the steps that it can; a loop always heeds a
request to stop. Time stands still meanwhile.
-/

namespace DuplexRpc

open ByteStream

namespace Network

/-- Something can be done with a pipe. -/
def isOpen {α : Type} : Attempt α → Bool
  | .blocked => false
  | _ => true

/-- A loop of a node can go on. -/
def canReceive (net : Network) (side : Side) (n : Node) : Bool :=
  let box := net.inbox side
  n.receiving && (n.isStopped || !box.frames.isEmpty || box.senderGone)

/-- The loop that writes frames can go on. -/
def canWrite (net : Network) (side : Side) (n : Node) : Bool :=
  match n.writer with
  | none => false
  | some .idle =>
    let box := n.endpoint.transport.box
    n.isStopped || !box.frames.isEmpty || box.senderGone
  | some (.writing slices) =>
    n.isStopped ||
      (net.pipeFrom? side).any fun pipe => isOpen (n.faults.write? pipe slices.flatten)

/-- The loop that reads frames can go on. -/
def canRead (net : Network) (side : Side) (n : Node) : Bool :=
  match n.reader with
  | none => false
  | some (_, before) =>
    n.isStopped || (net.pipeFrom? side.other).any fun pipe => isOpen (n.faults.read? pipe before)

def canRun (n : Node) (t : Task) : Bool :=
  match t.stand with
  | .going _ => true
  | .atGate _ _ => false
  | .awaiting call _ => n.endpoint.hasOutcome call

/-- The agents of a node that can go on. -/
def ableAt (net : Network) (side : Side) (n : Node) : List Agent :=
  (if n.sentinel && n.isStopped then [.sentinel side] else []) ++
    (if net.canReceive side n then [.receiving side true] else []) ++
    (if net.canWrite side n then [.writing side true] else []) ++
    (if net.canRead side n then [.reading side true] else []) ++
    (n.tasks.filter (canRun n)).map (fun t => .task side t.serial) ++
    (n.endpoint.pool.due net.clock).map fun t => .timer side t.ticket

def able (net : Network) : List Agent :=
  net.ableAt .a net.a ++ ((net.b.map (net.ableAt .b)).getD [])

/-- Puts the agents into the queue that have become able to go on. -/
def wake (net : Network) : Network :=
  { net with queue := net.queue ++ net.able.filter fun agent => !net.queue.contains agent }

/-- An agent takes steps while it can. -/
def turn (agent : Agent) : (fuel : Nat) → Network → Network
  | 0, net => net
  | fuel + 1, net => if net.able.contains agent then turn agent fuel (net.step agent) else net

def settleWith : (fuel : Nat) → Network → Network
  | 0, net => net
  | fuel + 1, net =>
    match net.queue with
    | [] => net
    | agent :: rest => settleWith fuel ((turn agent fuel { net with queue := rest }).wake)

/-- How many turns a network is given to settle. -/
def patience : Nat :=
  100000

def settle (net : Network) : Network :=
  settleWith patience net.wake

/-- The next moment at which a timer runs out. -/
def nextDeadline? (net : Network) : Option Nat :=
  let timers (n : Node) : List Nat := n.endpoint.pool.timers.map (·.deadline)
  (timers net.a ++ (net.b.map timers).getD []).min?

/-- Lets time go on to the next moment at which a timer runs out, none where no timer is armed. -/
def advance? (net : Network) : Option Network :=
  net.nextDeadline?.map fun t => { net with clock := max net.clock t }

end Network

end DuplexRpc

import DuplexRpc.Session.Perform

/-!
What can be seen of a session after a command, once the network has settled.
-/

namespace DuplexRpc

namespace Session

/-- What can be seen after a command. Texts and entries of the log are in order; the order in which
they came about does not show. -/
structure Report where
  reply : Reply
  /-- What the endpoints count that have an owner, and how many requests wait there. -/
  counts : List (Side × Counters × Nat)
  posted : List Message
  log : List Value
  warnings : List String
  details : List String
  reception : Reception

/-- The texts of reports, in order. -/
def noteTexts (notes : List Note) (wanted : Level → Bool) : List String :=
  ((notes.filter (wanted ·.level)).map Note.text).mergeSort (· ≤ ·)

def notes (net : Network) : List Note :=
  net.a.endpoint.notes ++ ((net.b.map (·.endpoint.notes)).getD [])

/-- What an endpoint with an owner counts. -/
def countsOf (net : Network) (side : Side) : List (Side × Counters × Nat) :=
  match (net.node? side).filter (·.held) with
  | some n => [(side, n.endpoint.counters, n.endpoint.pool.size)]
  | none => []

/-- Entries in the order of their texts. -/
def sortLog (log : List Value) : List Value :=
  log.mergeSort fun x y => Json.text x ≤ Json.text y

def report (s : Session) (reply : Reply) (reception : Reception) : Report where
  reply
  counts := countsOf s.net .a ++ countsOf s.net .b
  posted := s.net.a.endpoint.transport.posted
  log := sortLog s.net.log
  warnings := noteTexts (notes s.net) (· != .debug)
  details := noteTexts (notes s.net) (· == .debug)
  reception

def clear (s : Session) : Session :=
  let clearNode (n : Node) : Node :=
    n.mapEndpoint fun e => { e with notes := [], transport := e.transport.clear }
  { s with
    net := { (s.net.mapNode .a clearNode).mapNode .b clearNode with log := [] } }

/-- The frames that come in answer to a write come in no particular order. -/
def Reception.sorted (r : Reception) : Reception :=
  { r with frames := r.frames.mergeSort (· ≤ ·) }

/-- Performs a command and lets the network settle; the far end reads if it is told to. -/
def step (s : Session) (command : Command) (reading : Bool) : Report × Session :=
  let (reply, s) := s.perform command
  let s := { s with net := s.net.settle }
  let (reception, s) := if reading then s.read else ({}, s)
  let reception :=
    match command with
    | .write _ _ => reception.sorted
    | _ => reception
  (s.report reply reception, s.clear)

def play (s : Session) : List (Command × Bool) → List Report
  | [] => []
  | (command, reading) :: rest =>
    let (report, s) := s.step command reading
    report :: play s rest

end Session

end DuplexRpc

import DuplexRpc.Session.Command

/-!
Sessions: a network that someone outside drives command by command, who keeps the calls that were
made and may hold the far end of a stream.
-/

namespace DuplexRpc

open ByteStream Session

/-- What is kept of a call. -/
inductive Kept where
  /-- A call at an endpoint, whose result is read as a type. -/
  | call (side : Side) (call : Call) (result : Decoder Value)
  /-- A task that runs at an endpoint. -/
  | task (side : Side) (serial : Nat)

/-- The far end of a stream, which lies outside of the network. -/
structure FarEnd where
  /-- Bytes read that are not a frame yet. -/
  buffer : List UInt8 := []
  isOpen : Bool := true

/-- A network and what its driver holds. -/
structure Session where
  net : Network
  kept : List (String × Kept) := []
  farEnd : Option FarEnd := none

namespace Session

def find? (s : Session) (key : String) : Option Kept :=
  s.kept.lookup key

/-- Keeps nothing under a key any more. -/
def forget (s : Session) (key : String) : Session :=
  { s with kept := s.kept.filter (·.1 != key) }

def giveUp (net : Network) : Kept → Network
  | .call side call _ => net.mapNode side fun n => n.mapEndpoint (·.drop call)
  | .task side serial =>
    { net.abort side serial with endings := net.endings.filter (·.1 != serial) }

/-- Gives up what is kept under a key; false where nothing is. -/
def drop (s : Session) (key : String) : Bool × Session :=
  match s.find? key with
  | some kept => (true, { s.forget key with net := giveUp s.net kept })
  | none => (false, s)

/-- Keeps something under a key, in place of what was kept there before. -/
def keep (s : Session) (key : String) (kept : Kept) : Session :=
  let s := (s.drop key).2
  { s with kept := s.kept ++ [(key, kept)] }

/-- The outcome of a kept call, and the network without it. -/
def take? (net : Network) : Kept → Option (Outcome × Network)
  | .call side call result =>
    match net.node? side with
    | none => none
    | some n =>
      match n.endpoint.poll call with
      | (some outcome, _, endpoint) =>
        some (outcome.bind (decodeResult result), net.mapNode side fun n => { n with endpoint })
      | (none, _, _) => none
  | .task _ serial =>
    (net.endings.lookup serial).map fun outcome =>
      (outcome, { net with endings := net.endings.filter (·.1 != serial) })

/-- Waits for something, letting time go on where nothing else can. -/
def awaitWith {α : Type} (attempt : Network → Option (α × Network)) :
    (fuel : Nat) → Network → Option α × Network
  | 0, net => (none, net)
  | fuel + 1, net =>
    let net := net.settle
    match attempt net with
    | some (x, net) => (some x, net)
    | none =>
      match net.advance? with
      | some net => awaitWith attempt fuel net
      | none => (none, net)

/-- Waits for the outcome of what is kept. -/
def awaitKept (net : Network) (kept : Kept) : Option Outcome × Network :=
  awaitWith (take? · kept) Network.patience net

/-- The id of what is kept, none where it is not known. -/
def idOf : Kept → Option Id
  | .call _ call _ => call.id?
  | .task _ _ => none

/-- What is kept as shown in descriptions. -/
def describeKept : Kept → String
  | .call _ call _ => call.describe
  | .task _ _ => "stub"

end Session

end DuplexRpc

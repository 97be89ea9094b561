import DuplexRpc.Network.Node
import Mathlib.Logic.ExistsUnique

/-! Runs of one endpoint: requests are made, their callers poll and drop what they hold, responses
come in, timers run out, and the endpoint stops. A run keeps a record of every request that was
registered and posted. -/

namespace DuplexRpc

/-- What the caller of a posted request did with its call. -/
inductive Holding where
  | held
  | taken (outcome : Outcome)
  | dropped

/-- A request that was registered and posted. `offers` holds an outcome for every later step that
completes the request if it still waits, the first one first. -/
structure PostedRequest where
  id : Id
  ticket : Nat
  holding : Holding := .held
  offers : List Outcome := []

/-- What a caller got back from posting the request. -/
def PostedRequest.call (p : PostedRequest) : Call :=
  .waiting p.id p.ticket

/-- A node with the clock and the callers around it. -/
structure Callers where
  node : Node
  clock : Nat := 0
  posted : List PostedRequest := []

/-- A step of a run. -/
inductive CallEvent where
  | request (method : String) (params : Option Value) (timeout : Option Duration)
      (resultType : String)
  | response (r : Response)
  /-- The timer of a ticket reaches its deadline. -/
  | timer (ticket : Nat)
  /-- The caller of a ticket polls what it holds. -/
  | poll (ticket : Nat)
  /-- The caller of a ticket drops what it holds. -/
  | drop (ticket : Nat)
  | stop
  /-- The loop that handles frames ends. -/
  | loopExit
  /-- Time goes on. -/
  | pass (span : Nat)
  /-- The transport changes: frames are taken from it, or it closes. -/
  | carry (transport : Transport)

def CallEvent.isRequest : CallEvent → Bool
  | .request _ _ _ _ => true
  | _ => false

namespace Callers

def endpoint (s : Callers) : Endpoint :=
  s.node.endpoint

def pool (s : Callers) : PendingPool :=
  s.endpoint.pool

/-- The callers around an endpoint that has changed. -/
def setEndpoint (s : Callers) (e : Endpoint) : Callers :=
  { s with node := s.node.mapEndpoint fun _ => e }

/-- The timer of a ticket if its deadline has come. -/
def due? (s : Callers) (ticket : Nat) : Option Timer :=
  s.pool.timers.find? fun t => t.ticket == ticket && t.deadline ≤ s.clock

/-- The posted request of a ticket if its caller holds it. -/
def held? (s : Callers) (ticket : Nat) : Option PostedRequest :=
  s.posted.find? fun p => p.ticket == ticket && p.holding matches .held

/-- What the caller of a ticket did is recorded. -/
def setHolding (s : Callers) (ticket : Nat) (holding : Holding) : Callers :=
  { s with posted := s.posted.map fun p => if p.ticket = ticket then { p with holding } else p }

/-- The outcome that a posted request gets from an event if it still waits: the result of a response
with an equal id, a timeout from its timer, an interruption from a stop or from the end of the
loop. -/
def offer? (s : Callers) (p : PostedRequest) : CallEvent → Option Outcome
  | .response r => if p.id.same r.id then some r.result else none
  | .timer ticket => if ticket = p.ticket then (s.due? ticket).map fun _ => .error .timeout else none
  | .stop | .loopExit => some (.error .interrupted)
  | _ => none

/-- Every posted request notes what an event offers. -/
def noteOffers (s : Callers) (e : CallEvent) : Callers :=
  { s with posted := s.posted.map fun p => { p with offers := p.offers ++ (s.offer? p e).toList } }

/-- What an event does at the endpoint. -/
def act (s : Callers) : CallEvent → Callers
  | .request method params timeout resultType =>
    match s.endpoint.request s.clock method params timeout resultType with
    | (.waiting id ticket, e) =>
      { s.setEndpoint e with posted := s.posted ++ [{ id, ticket }] }
    | (_, e) => s.setEndpoint e
  | .response r => s.setEndpoint (s.endpoint.handle (.response r)).1
  | .timer ticket =>
    match s.due? ticket with
    | some t => s.setEndpoint (s.endpoint.expire t)
    | none => s
  | .poll ticket =>
    match s.held? ticket with
    | some p =>
      match s.endpoint.poll p.call with
      | (some outcome, _, e) => (s.setEndpoint e).setHolding ticket (.taken outcome)
      | (none, _, _) => s
    | none => s
  | .drop ticket =>
    match s.held? ticket with
    | some p => (s.setEndpoint (s.endpoint.drop p.call)).setHolding ticket .dropped
    | none => s
  | .stop => s.setEndpoint s.endpoint.stop
  | .loopExit => { s with node := s.node.endReceiving }
  | .pass span => { s with clock := s.clock + span }
  | .carry transport => s.setEndpoint { s.endpoint with transport }

def step (s : Callers) (e : CallEvent) : Callers :=
  (s.noteOffers e).act e

def run (s : Callers) (events : List CallEvent) : Callers :=
  events.foldl step s

def requestCount (events : List CallEvent) : Nat :=
  events.countP (·.isRequest)

theorem requestCount_cons (e : CallEvent) (events : List CallEvent) :
    requestCount (e :: events) = requestCount events + requestCount [e] := by
  simp [requestCount, List.countP_cons]

theorem requestCount_append (events more : List CallEvent) :
    requestCount (events ++ more) = requestCount events + requestCount more :=
  List.countP_append

/-- The three conditions of a posted request. -/
inductive Condition where
  | waiting
  | settled
  | dropped
deriving DecidableEq, Repr

/-- The outcome is in the slot of a call that is held, or the caller took it. -/
def Has (s : Callers) (p : PostedRequest) (outcome : Outcome) : Prop :=
  (p.holding = .held ∧ s.pool.slots.find? p.ticket = some (.filled outcome)) ∨
    p.holding = .taken outcome

/-- The entry of a posted request is in the pool. -/
def Registered (s : Callers) (p : PostedRequest) : Prop :=
  ∃ q, s.pool.find? p.id = some q ∧ q.ticket = p.ticket

/-- A posted request waits with an entry and an empty slot, or it has exactly one outcome and no
entry, or its call was dropped and it has no entry. -/
def Meets (s : Callers) (p : PostedRequest) : Condition → Prop
  | .waiting =>
    s.Registered p ∧ p.holding = .held ∧ s.pool.slots.find? p.ticket = some .vacant
  | .settled => s.pool.contains p.id = false ∧ ∃! outcome, s.Has p outcome
  | .dropped => s.pool.contains p.id = false ∧ p.holding = .dropped

end Callers

end DuplexRpc

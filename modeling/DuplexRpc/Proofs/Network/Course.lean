import DuplexRpc.Network.Connect
import DuplexRpc.Proofs.Codec

/-! Courses of two endpoints that are joined by queues. An act is a step of an agent, or something
that a caller does, or a gate that opens, or time that goes on; acts may follow each other in any
order. A course keeps a trace of what each side posted and handled, which tasks started and ended
there, and which of its requests were resolved by a response. -/

namespace DuplexRpc

def Message.request? : Message → Option Request
  | .request r => some r
  | _ => none

def Message.response? : Message → Option Response
  | .response r => some r
  | _ => none

/-- The id of the request that a role answers. -/
def Role.requestId? : Role → Option Id
  | .handler (.request id _) => some id
  | _ => none

namespace Task

/-- What does not change while a task runs. -/
def tag (t : Task) : Nat × Role :=
  (t.serial, t.role)

/-- How a task ends that has nothing left to do. -/
def ending? (t : Task) : Option Ending :=
  match t.stand with
  | .going (.done outcome) => some (.outcome outcome)
  | .going (.panic payload) => some (.panic payload)
  | _ => none

/-- The requests that tasks run handlers for, by id. -/
def requestIds (tasks : List Task) : List Id :=
  tasks.filterMap (·.role.requestId?)

end Task

/-- What an endpoint is made to do. -/
inductive Deed where
  | nothing
  | launch (what : Launch)
  | announce (what : Launch)
  | poll (call : Call)
  | drop (call : Call)
  | expire (t : Timer)
  | handle (frame : Frame)
  | finish (origin : Origin) (ending : Ending)

/-- The endpoint after a deed. -/
def Deed.run (clock : Nat) (e : Endpoint) : Deed → Endpoint
  | .nothing => e
  | .launch what => (e.launch clock what).2
  | .announce what => (e.announce what).2
  | .poll call => (e.poll call).2.2
  | .drop call => e.drop call
  | .expire t => e.expire t
  | .handle frame => (e.handleFrame frame).1
  | .finish origin ending => e.finish origin ending

/-- An endpoint with another transport. -/
def Endpoint.via (e : Endpoint) (t : Transport) : Endpoint :=
  { e with transport := t }

/-- What a deed posts: what a record of it would keep. -/
def Deed.posts (clock : Nat) (e : Endpoint) (d : Deed) : List Message :=
  (d.run clock (e.via (.recorder [] none))).transport.posted

/-- The messages that a deed handles. -/
def Deed.handled (codec : Codec) : Deed → List Message
  | .handle frame => (codec.decode frame).toOption.toList
  | _ => []

/-- The outcomes that a deed hands to a caller, each with the ticket of its request. -/
def Deed.taken (e : Endpoint) : Deed → List (Nat × Outcome)
  | .poll (.waiting id ticket) => ((e.poll (.waiting id ticket)).1.map (ticket, ·)).toList
  | _ => []

/-- The calls that a deed gives up, each by its ticket and the id of its request. -/
def Deed.dropped : Deed → List (Nat × Id)
  | .drop (.waiting id ticket) => [(ticket, id)]
  | _ => []

/-- What a task makes its endpoint do when it goes on. -/
def Task.deed (t : Task) : Deed :=
  match t.stand with
  | .going (.done outcome) =>
    match t.role with
    | .handler origin => .finish origin (.outcome outcome)
    | .caller => .nothing
  | .going (.panic payload) =>
    match t.role with
    | .handler origin => .finish origin (.panic payload)
    | .caller => .nothing
  | .going (.request what _) => .launch what
  | .going (.notify what _) => .announce what
  | .awaiting call _ => .poll call
  | _ => .nothing

/-- The tasks of a list whose serial numbers another list does not have. -/
def Task.freshFrom (before after : List Task) : List Task :=
  after.filter fun t => before.all (·.serial != t.serial)

/-- The entries that responses find in a pool. -/
def PendingPool.matched (pool : PendingPool) (rs : List Response) : List (PendingRequest × Response) :=
  rs.filterMap fun r => (pool.find? r.id).map (·, r)

/-- What happened at one side. -/
structure Trace where
  posted : List Message := []
  handled : List Message := []
  started : List Task := []
  ended : List (Task × Ending) := []
  /-- The requests that a response resolved, each with the response. -/
  resolved : List (PendingRequest × Response) := []
  /-- The outcomes that callers took, each with the ticket of its request. -/
  taken : List (Nat × Outcome) := []
  /-- The calls that callers gave up, each by its ticket and the id of its request. -/
  dropped : List (Nat × Id) := []

namespace Trace

def append (t u : Trace) : Trace where
  posted := t.posted ++ u.posted
  handled := t.handled ++ u.handled
  started := t.started ++ u.started
  ended := t.ended ++ u.ended
  resolved := t.resolved ++ u.resolved
  taken := t.taken ++ u.taken
  dropped := t.dropped ++ u.dropped

def requests (t : Trace) : List Request :=
  t.posted.filterMap Message.request?

def responses (t : Trace) : List Response :=
  t.posted.filterMap Message.response?

def asked (t : Trace) : List Request :=
  t.handled.filterMap Message.request?

def answers (t : Trace) : List Response :=
  t.handled.filterMap Message.response?

end Trace

namespace Network

/-- What may happen. -/
inductive Act where
  | go (agent : Agent)
  /-- A caller makes a call. -/
  | launch (side : Side) (what : Launch)
  /-- A caller posts a notification. -/
  | announce (side : Side) (what : Launch)
  /-- A caller polls a call. -/
  | poll (side : Side) (call : Call)
  /-- A caller drops a call. -/
  | drop (side : Side) (call : Call)
  /-- A caller runs a script as a task. -/
  | run (side : Side) (script : Script)
  | openGate (ticket : Nat) (opening : Opening)
  /-- Time goes on. -/
  | pass (span : Nat)

def act (net : Network) : Act → Network
  | .go agent => net.step agent
  | .launch side what => net.mapNode side (·.mapEndpoint (Deed.run net.clock · (.launch what)))
  | .announce side what => net.mapNode side (·.mapEndpoint (Deed.run net.clock · (.announce what)))
  | .poll side call => net.mapNode side (·.mapEndpoint (Deed.run net.clock · (.poll call)))
  | .drop side call => net.mapNode side (·.mapEndpoint (Deed.run net.clock · (.drop call)))
  | .run side script => net.spawn side .caller script
  | .openGate ticket opening => net.openGate ticket opening
  | .pass span => { net with clock := net.clock + span }

/-- The side at which an act takes place, none where it takes place at no endpoint. -/
def Act.side? : Act → Option Side
  | .go (.sentinel side) | .go (.receiving side _) | .go (.writing side _) | .go (.reading side _)
  | .go (.task side _) | .go (.timer side _) => some side
  | .launch side _ | .announce side _ | .poll side _ | .drop side _ | .run side _ => some side
  | .openGate _ _ | .pass _ => none

/-- The node of a side, the first one where there is no second. -/
def at_ (net : Network) (side : Side) : Node :=
  (net.node? side).getD net.a

def endpoint (net : Network) (side : Side) : Endpoint :=
  (net.at_ side).endpoint

/-- The messages on their way to a side. -/
def coming (net : Network) (side : Side) : List Message :=
  (net.inbox side).frames.filterMap fun frame =>
    ((net.endpoint side).config.codec.decode frame).toOption

/-- The ids of the requests whose handlers are running at a side. -/
def running (net : Network) (side : Side) : List Id :=
  Task.requestIds (net.at_ side).tasks

/-- What an act makes the endpoint of its side do. -/
def deed (net : Network) (side : Side) : Act → Deed
  | .go (.receiving _ _) =>
    match (net.inbox side).frames with
    | frame :: _ => .handle frame
    | [] => .nothing
  | .go (.task _ serial) =>
    match (net.at_ side).tasks.find? (·.serial == serial) with
    | some t => t.deed
    | none => .nothing
  | .go (.timer _ ticket) =>
    match (net.endpoint side).pool.timers.find? fun t =>
      t.ticket == ticket && t.deadline ≤ net.clock with
    | some t => .expire t
    | none => .nothing
  | .launch _ what => .launch what
  | .announce _ what => .announce what
  | .poll _ call => .poll call
  | .drop _ call => .drop call
  | _ => .nothing

/-- What is seen of a deed of a side by which the network goes on to `net'`: what the endpoint
posted, the message that it handled, the tasks that are there after the deed alone or before it
alone, the entry that a response found, the outcome that a caller took, and the call that a caller
gave up. -/
def seen (net net' : Network) (side : Side) (d : Deed) : Trace :=
  let e := net.endpoint side
  let before := (net.at_ side).tasks
  let after := (net'.at_ side).tasks
  { posted := d.posts net.clock e
    handled := d.handled e.config.codec
    started := Task.freshFrom before after
    ended := (Task.freshFrom after before).filterMap fun t => t.ending?.map (t, ·)
    resolved := e.pool.matched ((d.handled e.config.codec).filterMap Message.response?)
    taken := d.taken e
    dropped := d.dropped }

/-- What is seen of an act at a side. -/
def observe (net : Network) (side : Side) (act : Act) : Trace :=
  net.seen (net.act act) side (net.deed side act)

end Network

/-- A network and what happened in it so far. -/
structure Course where
  net : Network
  trace : Side → Trace := fun _ => {}

namespace Course

def step (c : Course) (act : Network.Act) : Course where
  net := c.net.act act
  trace side :=
    if act.side? = some side then (c.trace side).append (c.net.observe side act)
    else c.trace side

def run (c : Course) (acts : List Network.Act) : Course :=
  acts.foldl step c

end Course

end DuplexRpc

import DuplexRpc.Endpoint.Note
import DuplexRpc.Endpoint.Transport
import DuplexRpc.IdSource
import DuplexRpc.Pending.Pool
import DuplexRpc.Registry
import DuplexRpc.Supervisor

/-!
Endpoints: one side of a connection, with its handlers, the requests that it waits for, and the
transport that it posts to. Every operation gives the endpoint after it; what it has to report is
added to its notes.
-/

namespace DuplexRpc

/-- What an endpoint counts. -/
structure Counters where
  unmatchedResponses : Nat := 0
  unhandledNotifications : Nat := 0
  failedNotifications : Nat := 0
deriving DecidableEq, Repr

namespace Counters

def describe (c : Counters) : String :=
  s!"Stats \x7b unmatched_responses: {c.unmatchedResponses}, " ++
    s!"unhandled_notifications: {c.unhandledNotifications}, " ++
    s!"failed_notifications: {c.failedNotifications} \x7d"

end Counters

/-- One side of a connection. -/
structure Endpoint where
  config : EndpointConfig
  registry : Registry
  transport : Transport
  ids : IdSource
  pool : PendingPool := {}
  supervisor : Supervisor := .create
  counters : Counters := {}
  notes : List Note := []

/-- The time from which on no deadline can be represented, in nanoseconds. -/
def Endpoint.endOfTime : Nat :=
  0x8000000000000000 * Duration.nanosPerSecond

namespace Endpoint

/-- A new endpoint. Its ids count up from the configured one where no other source is given. -/
def create (config : EndpointConfig) (registry : Registry) (transport : Transport)
    (ids : Option IdSource) : Endpoint :=
  { config, registry, transport, ids := ids.getD (.sequence config.initialId) }

def note (e : Endpoint) (n : Note) : Endpoint :=
  { e with notes := e.notes ++ [n] }

/-- What scripts can see of an endpoint. -/
def view (e : Endpoint) : EndpointView where
  isPending := e.pool.contains
  methods := e.registry.methodNames

/-- The endpoint no longer takes part in the connection. -/
def isStopped (e : Endpoint) : Bool :=
  e.supervisor.stopRequested

/-- The moment at which a request ends by timeout. A moment that cannot be represented never
comes. -/
def deadline (now : Nat) (timeout : Option Duration) : Option Nat :=
  timeout.bind fun d => if now + d.nanos < endOfTime then some (now + d.nanos) else none

/-- Gives up the request of an id for its caller, who had the ticket. -/
def leave (e : Endpoint) (ticket : Nat) (id : Id) : Endpoint :=
  match e.pool.leave ticket id with
  | (some _, pool) => { e with pool }.note (.cancelled id)
  | (none, pool) => { e with pool }

/-- Asks all background tasks to stop, and interrupts all requests that wait. -/
def stop (e : Endpoint) : Endpoint :=
  { e with supervisor := e.supervisor.stop, pool := e.pool.failAll .interrupted }

/-- Nobody holds the endpoint any more: its background tasks are asked to stop, and it will post
nothing more. Requests that wait go on waiting. -/
def release (e : Endpoint) : Endpoint :=
  { e with
    supervisor := e.supervisor.stop
    transport := e.transport.mapBox fun box => { box with senderGone := true } }

def describe (e : Endpoint) : String :=
  s!"Endpoint \x7b config: {e.config.describe}, registry: {e.registry.describe}, " ++
    s!"pending: {e.pool.describe}, stats: {e.counters.describe}, .. \x7d"

end Endpoint

end DuplexRpc

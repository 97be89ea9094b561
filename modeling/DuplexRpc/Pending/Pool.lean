import DuplexRpc.Message.Basic
import DuplexRpc.Pending.Slot

/-!
The requests that wait for a response. An entry is known by the id of its request; the caller knows
its slot by a ticket, which no other request of the pool ever gets. An entry with a deadline has a
timer, which is disarmed when the entry leaves the pool.
-/

namespace DuplexRpc

/-- A request that waits for its response. -/
structure PendingRequest where
  request : Request
  /-- The name of the type that the result is read as. -/
  resultType : String
  deadline : Option Nat
  ticket : Nat

namespace PendingRequest

def id (p : PendingRequest) : Id :=
  p.request.id

/-- An entry as shown in descriptions. Only entries without a deadline are shown. -/
def describe (p : PendingRequest) : String :=
  s!"PendingRequest \x7b id: {p.id.describe}, method: {Text.quoted p.request.method}, " ++
    s!"result_type: {Text.quoted p.resultType}, deadline: None \x7d"

end PendingRequest

/-- Ends the request of an id when its time has come. -/
structure Timer where
  ticket : Nat
  id : Id
  deadline : Nat

/-- The requests that wait, their timers and the slots of their callers. -/
structure PendingPool where
  entries : List PendingRequest := []
  timers : List Timer := []
  slots : Slots := []
  nextTicket : Nat := 0

namespace PendingPool

def find? (pool : PendingPool) (id : Id) : Option PendingRequest :=
  pool.entries.find? (·.id.same id)

def contains (pool : PendingPool) (id : Id) : Bool :=
  (pool.find? id).isSome

def size (pool : PendingPool) : Nat :=
  pool.entries.length

def isEmpty (pool : PendingPool) : Bool :=
  pool.entries.isEmpty

/-- Takes an entry out and disarms its timer. -/
def remove (pool : PendingPool) (p : PendingRequest) : PendingPool :=
  { pool with
    entries := pool.entries.filter (·.ticket != p.ticket)
    timers := pool.timers.filter (·.ticket != p.ticket) }

/-- Takes the entry of an id out of the pool. -/
def pop (pool : PendingPool) (id : Id) : Option PendingRequest × PendingPool :=
  match pool.find? id with
  | some p => (some p, pool.remove p)
  | none => (none, pool)

/-- The caller of an entry still waits for its outcome. -/
def awaited (pool : PendingPool) (p : PendingRequest) : Bool :=
  match pool.slots.find? p.ticket with
  | some .vacant => true
  | _ => false

/-- Leaves the outcome of an entry for its caller. -/
def complete (pool : PendingPool) (p : PendingRequest) (outcome : Outcome) : PendingPool :=
  { pool with slots := pool.slots.settle p.ticket (.filled outcome) }

/-- Gives an entry up without an outcome. -/
def abandon (pool : PendingPool) (p : PendingRequest) : PendingPool :=
  { pool with slots := pool.slots.settle p.ticket .abandoned }

/-- A new entry and its slot under the next ticket. -/
def enter (pool : PendingPool) (request : Request) (resultType : String) (deadline : Option Nat) :
    PendingPool :=
  let ticket := pool.nextTicket
  { entries := pool.entries ++ [{ request, resultType, deadline, ticket }]
    timers := pool.timers ++ (deadline.map fun d => ⟨ticket, request.id, d⟩).toList
    slots := pool.slots ++ [(ticket, .vacant)]
    nextTicket := ticket + 1 }

/-- Adds a request and gives its ticket. Fails where a request with the same id waits. -/
def add (pool : PendingPool) (request : Request) (resultType : String) (deadline : Option Nat) :
    Except RpcError (Nat × PendingPool) :=
  match pool.find? request.id with
  | some p => .error (.internal s!"request id {p.id.text} is already in flight")
  | none => .ok (pool.nextTicket, pool.enter request resultType deadline)

/-- Ends the request of an id with an outcome; gives the entry, none where no such request waits. -/
def finish (pool : PendingPool) (id : Id) (outcome : Outcome) :
    Option PendingRequest × PendingPool :=
  match pool.pop id with
  | (some p, pool) => (some p, pool.complete p outcome)
  | (none, pool) => (none, pool)

/-- Ends the request that a response answers. -/
def resolve (pool : PendingPool) (r : Response) : Option PendingRequest × PendingPool :=
  pool.finish r.id r.result

/-- Gives the request of an id up. -/
def cancel (pool : PendingPool) (id : Id) : Option PendingRequest × PendingPool :=
  match pool.pop id with
  | (some p, pool) => (some p, pool.abandon p)
  | (none, pool) => (none, pool)

def failAll (pool : PendingPool) (e : RpcError) : PendingPool :=
  pool.entries.foldl (fun pool p => (pool.remove p).complete p (.error e)) pool

/-- A timer runs out: the request of its id ends by timeout. -/
def expire (pool : PendingPool) (t : Timer) : Option PendingRequest × PendingPool :=
  { pool with timers := pool.timers.filter (·.ticket != t.ticket) }.finish t.id (.error .timeout)

/-- The caller of a ticket looks for the outcome, and takes it. -/
def poll (pool : PendingPool) (ticket : Nat) : Option Outcome × PendingPool :=
  match (pool.slots.find? ticket).bind Slot.outcome? with
  | some outcome => (some outcome, { pool with slots := pool.slots.erase ticket })
  | none => (none, pool)

/-- The caller of a ticket goes: its slot is gone, and the request of its id is given up. -/
def leave (pool : PendingPool) (ticket : Nat) (id : Id) : Option PendingRequest × PendingPool :=
  { pool with slots := pool.slots.erase ticket }.cancel id

/-- The timers whose time has come, the earliest first. -/
def due (pool : PendingPool) (now : Nat) : List Timer :=
  (pool.timers.filter (·.deadline ≤ now)).mergeSort (·.deadline ≤ ·.deadline)

def describe (pool : PendingPool) : String :=
  s!"PendingPool \x7b in_flight: {pool.size} \x7d"

end PendingPool

end DuplexRpc

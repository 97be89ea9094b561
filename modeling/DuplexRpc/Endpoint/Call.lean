import DuplexRpc.Endpoint.Basic

/-!
Calls: what a caller holds of a request that it made. A request is entered into the pool before it
is posted, since its response may come before posting is over.
-/

namespace DuplexRpc

/-- What a caller holds of a request. -/
inductive Call where
  /-- The outcome is known; it can be taken once. -/
  | ready (outcome : Option Outcome)
  /-- The outcome of a computation of the caller's own. -/
  | computed (outcome : Outcome)
  /-- The request with the id waits under the ticket. -/
  | waiting (id : Id) (ticket : Nat)

namespace Call

/-- A call that failed before anything was posted. -/
def fail (e : RpcError) : Call :=
  .ready (some (.error e))

/-- The id of the request, none where nothing was posted. -/
def id? : Call → Option Id
  | .waiting id _ => some id
  | _ => none

/-- The outcome of a call that waits for no response, and the call after it was taken. An outcome
that was known from the start is interrupted when it is taken again. -/
def take? : Call → Option (Outcome × Call)
  | .ready outcome => some (outcome.getD (.error .interrupted), .ready none)
  | .computed outcome => some (outcome, .computed outcome)
  | .waiting _ _ => none

def describe (c : Call) : String :=
  let state :=
    match c with
    | .ready _ => "Ready"
    | .computed _ => "Boxed"
    | .waiting _ _ => "Waiting"
  let id :=
    match c.id? with
    | some id => s!"Some({id.describe})"
    | none => "None"
  s!"ResponseFuture \x7b id: {id}, state: {Text.quoted state} \x7d"

end Call

namespace Endpoint

def notify (e : Endpoint) (method : String) (params : Option Value) :
    Except RpcError Unit × Endpoint :=
  let e := e.note (.notifying method)
  match e.transport.post (.notification { method, params }) with
  | .ok transport => (.ok (), { e with transport })
  | .error err => (.error err, e)

/-- Posts a request that stands in the pool under a ticket. Where posting fails the request is taken
out again. -/
def postRequest (e : Endpoint) (r : Request) (ticket : Nat) : Call × Endpoint :=
  match e.transport.post (.request r) with
  | .ok transport => (.waiting r.id ticket, { e with transport })
  | .error err => (.fail err, e.leave ticket r.id)

/-- Makes a request. A stopped endpoint makes none, and takes no id for it. -/
def request (e : Endpoint) (now : Nat) (method : String) (params : Option Value)
    (timeout : Option Duration) (resultType : String) : Call × Endpoint :=
  if e.isStopped then (.fail .interrupted, e)
  else
    let (id, ids) := e.ids.take
    let e := { e with ids }.note (.requesting id method)
    let r : Request := { id, method, params }
    match e.pool.add r resultType (deadline now timeout) with
    | .error err => (.fail err, e)
    | .ok (ticket, pool) => { e with pool }.postRequest r ticket

/-- The mapping of a declared method, and its parameters for arguments. -/
def resolve (e : Endpoint) (service : ServiceDescriptor) (method : MethodDescriptor) :
    Except RpcError MethodMapping × Endpoint :=
  let (m, registry) := e.registry.resolve service method
  (m, { e with registry })

/-- The parameters for arguments that may be at fault already. -/
def pack (m : MethodMapping) (args : Except RpcError (List Value)) :
    Except RpcError (Option Value) :=
  match args with
  | .error err => .error err
  | .ok args => m.pack args

/-- Makes a call. A declared notification cannot be called. -/
def launch (e : Endpoint) (now : Nat) : Launch → Call × Endpoint
  | .plain method params timeout resultType => e.request now method params timeout resultType
  | .mapped client service method args =>
    match e.resolve service method with
    | (.error err, e) => (.fail err, e)
    | (.ok m, e) =>
      if m.kind = .notification then
        (.fail { kind := .invalidMapping, message := s!"{m.name} is a notification" }, e)
      else
        match pack m args with
        | .error err => (.fail err, e)
        | .ok params => e.request now m.name params (m.timeout.or client.timeout) m.resultType

def announce (e : Endpoint) : Launch → Except RpcError Unit × Endpoint
  | .plain method params _ _ => e.notify method params
  | .mapped _ service method args =>
    match e.resolve service method with
    | (.error err, e) => (.error err, e)
    | (.ok m, e) =>
      match pack m args with
      | .error err => (.error err, e)
      | .ok params => e.notify m.name params

/-- Looks for the outcome of a call, and takes it. -/
def poll (e : Endpoint) : Call → Option Outcome × Call × Endpoint
  | .waiting id ticket =>
    match e.pool.poll ticket with
    | (some outcome, pool) => (some outcome, .ready none, { e with pool })
    | (none, _) => (none, .waiting id ticket, e)
  | call =>
    match call.take? with
    | some (outcome, call) => (some outcome, call, e)
    | none => (none, call, e)

/-- The outcome of a call is there. -/
def hasOutcome (e : Endpoint) : Call → Bool
  | .waiting _ ticket => ((e.pool.slots.find? ticket).bind Slot.outcome?).isSome
  | _ => true

def drop (e : Endpoint) : Call → Endpoint
  | .waiting id ticket => e.leave ticket id
  | _ => e

def expire (e : Endpoint) (t : Timer) : Endpoint :=
  match e.pool.expire t with
  | (some p, pool) => { e with pool }.note (.timedOut t.id p.request.method)
  | (none, pool) => { e with pool }

end Endpoint

end DuplexRpc

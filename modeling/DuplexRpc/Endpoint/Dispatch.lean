import DuplexRpc.Endpoint.Basic

/-!
Inbound messages: who handles them, and what is posted in return. Handlers run as jobs of their own,
so an endpoint gives the jobs that a message starts.
-/

namespace DuplexRpc

/-- What a job handles. -/
inductive Origin where
  | request (id : Id) (method : String)
  | notification (method : String)
deriving DecidableEq, Repr

/-- A run of a handler. -/
structure Job where
  origin : Origin
  script : Script

/-- How a job ends. -/
inductive Ending where
  | outcome (o : Outcome)
  | panic (payload : PanicPayload)

/-- The outcome of a job; a panic is an error. -/
def Ending.toOutcome : Ending → Outcome
  | .outcome o => o
  | .panic payload => .error (.ofPanic payload)

namespace Endpoint

def reply (e : Endpoint) (r : Response) : Endpoint :=
  match e.transport.post (.response r) with
  | .ok transport => { e with transport }
  | .error err => e.note (.replyLost r.id err)

def countUnhandled (e : Endpoint) : Endpoint :=
  { e with
    counters :=
      { e.counters with unhandledNotifications := e.counters.unhandledNotifications + 1 } }

/-- Counts a response that nobody waits for. -/
def countUnmatched (e : Endpoint) : Endpoint :=
  { e with
    counters := { e.counters with unmatchedResponses := e.counters.unmatchedResponses + 1 } }

def countFailed (e : Endpoint) : Endpoint :=
  { e with
    counters := { e.counters with failedNotifications := e.counters.failedNotifications + 1 } }

/-- The runs of the handlers of a notification. -/
def notificationJobs (e : Endpoint) (n : Notification) : List Job :=
  (e.registry.notificationHandlers n.method).map fun h =>
    ⟨.notification n.method, h { method := n.method } n.params⟩

def dispatchNotification (e : Endpoint) (n : Notification) : Endpoint × List Job :=
  match e.notificationJobs n with
  | [] => ((e.note (.noListener n.method)).countUnhandled, [])
  | jobs => (e, jobs)

/-- Dispatches a request: to the handler of its method, or to an error. -/
def dispatchRequest (e : Endpoint) (r : Request) : Endpoint × List Job :=
  if r.method.isEmpty then
    let err : RpcError := { kind := .invalidRequest, message := "empty method name" }
    (e.reply ⟨r.id, .error err⟩, [])
  else
    match e.registry.requestHandler? r.method with
    | none =>
      ((e.note (.noHandler r.method)).reply ⟨r.id, .error (.methodNotFound r.method)⟩, [])
    | some h =>
      (e, [⟨.request r.id r.method, h { method := r.method, id := some r.id } r.params⟩])

/-- Ends the request that a response answers; false where nobody waits for it. -/
def resolveResponse (e : Endpoint) (r : Response) : Bool × Endpoint :=
  match e.pool.resolve r with
  | (some _, pool) => (true, { e with pool }.note (.resolved r.id))
  | (none, _) => (false, e.note (.unmatched r.id))

def takeResponse (e : Endpoint) (r : Response) : Endpoint :=
  match e.resolveResponse r with
  | (true, e) => e
  | (false, e) => e.countUnmatched

/-- Handles a message. A request is also dispatched to the handlers of notifications. -/
def handle (e : Endpoint) : Message → Endpoint × List Job
  | .notification n => e.dispatchNotification n
  | .request r =>
    let jobs := e.notificationJobs r.asNotification
    let (e, more) := e.dispatchRequest r
    (e, jobs ++ more)
  | .response r => (e.takeResponse r, [])

/-- Handles a frame. What is no message but has the id and the method of a request is answered with
the error. -/
def handleFrame (e : Endpoint) (frame : Frame) : Endpoint × List Job :=
  match e.config.codec.decodeValue frame with
  | .error err => (e.note (.undecodable err), [])
  | .ok v =>
    match Message.ofValue v with
    | .ok m => e.handle m
    | .error err =>
      let e := e.note (.invalid err)
      match Message.requestId? v with
      | some id => (e.reply ⟨id, .error err⟩, [])
      | none => (e, [])

/-- A job ends: a request is answered, the failure of a notification is counted. -/
def finish (e : Endpoint) (origin : Origin) (ending : Ending) : Endpoint :=
  match origin, ending.toOutcome with
  | .request id method, .error err =>
    (e.note (.requestFailed id method err)).reply ⟨id, .error err⟩
  | .request id _, .ok v => e.reply ⟨id, .ok v⟩
  | .notification method, .error err => (e.note (.listenerFailed method err)).countFailed
  | .notification _, .ok _ => e

end Endpoint

end DuplexRpc

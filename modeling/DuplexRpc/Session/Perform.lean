import DuplexRpc.Session.FarEnd

/-!
Performing commands. Every command is performed at once; the network settles after it.
-/

namespace DuplexRpc

namespace Session

/-- The outcome of something without a result. -/
def ofUnit (r : Except RpcError Unit) : Reply :=
  .outcome (r.map fun _ => .null)

/-- What a description shows of an endpoint. -/
def describe (e : Endpoint) : Subject → String
  | .endpoint => e.describe
  | .registry => e.registry.describe
  | .resolver => e.registry.resolver.describe
  | .pending => e.pool.describe
  | .context => ({} : Context).describe

def register (e : Endpoint) (entry : Registry.Entry) : Reply × Endpoint :=
  let (outcome, registry, notes) := e.registry.register entry
  (ofUnit outcome, { e with registry, notes := e.notes ++ notes })

/-- Takes a request out of the pool of an endpoint. -/
def pop (e : Endpoint) (id : Id) (outcome : Option Outcome) : Reply × Endpoint :=
  match e.pool.pop id with
  | (none, _) => (.text "none", e)
  | (some p, pool) =>
    match outcome with
    | some outcome =>
      (.popped p (some (pool.awaited p)), { e with pool := pool.complete p outcome })
    | none => (.popped p none, { e with pool := pool.abandon p })

/-- Lets an endpoint take a response that has not come as a frame. -/
def resolve (e : Endpoint) (message : Value) : Reply × Endpoint :=
  match Message.ofValue message with
  | .error err => (.outcome (.error err), e)
  | .ok (.response r) =>
    let (found, e) := e.resolveResponse r
    (.truth found, e)
  | .ok _ => (.truth false, e)

/-- What an endpoint is asked that starts no job. -/
def consult (e : Endpoint) : Ask → Reply × Endpoint
  | .notify launch =>
    let (r, e) := e.announce launch
    (ofUnit r, e)
  | .register entry => register e entry
  | .methods => (.texts e.registry.methodNames, e)
  | .handlers method =>
    (.handlers (e.registry.requestHandler? method).isSome
      (e.registry.notificationHandlers method).length, e)
  | .mappings => (.mappings e.registry.resolver.size, e)
  | .isPending id => (.isPending (e.pool.contains id) e.pool.isEmpty, e)
  | .pop id outcome => pop e id outcome
  | .resolve message => resolve e message
  | .failAll err => (.nothing, { e with pool := e.pool.failAll err })
  | .describe subject => (.text (describe e subject), e)
  | .config => (.config e.config, e)
  | .context => (.context {}, e)
  | .stop => (.nothing, e.stop)
  | .failPosts failure => (.nothing, { e with transport := e.transport.failWith failure })
  | _ => (.nothing, e)

def askNode (net : Network) (side : Side) (n : Node) : Ask → Reply × Network
  | .frame bytes => (.nothing, net.atEndpoint side (·.handleFrame bytes))
  | .handle message =>
    match Message.ofValue message with
    | .ok m => (.nothing, net.atEndpoint side (·.handle m))
    | .error err => (.outcome (.error err), net)
  | .letGo => (.nothing, net.mapNode side Node.letGo)
  | what =>
    let (reply, endpoint) := consult n.endpoint what
    (reply, net.mapNode side fun n => { n with endpoint })

/-- Asks the endpoint of a side, whose owner must not have let go of it. -/
def ask (s : Session) (side : Side) (what : Ask) : Reply × Session :=
  match (s.net.node? side).filter (·.held) with
  | some n =>
    let (reply, net) := askNode s.net side n what
    (reply, { s with net })
  | none => (.noEndpoint, s)

/-- Waits for the outcome of what is kept. -/
def awaitReply (net : Network) (kept : Kept) : Reply × Network :=
  let (outcome, net) := awaitKept net kept
  ((outcome.map Reply.outcome).getD .pending, net)

def launch (s : Session) (side : Side) (key : String) (launch : Launch) (result : Decoder Value)
    (awaited : Bool) : Reply × Session :=
  match (s.net.node? side).filter (·.held) with
  | none => (.noEndpoint, s)
  | some n =>
    let (call, endpoint) := n.endpoint.launch s.net.clock launch
    let s := { s with net := s.net.mapNode side fun n => { n with endpoint } }
    let kept := Kept.call side call result
    if awaited then
      let (reply, net) := awaitReply s.net kept
      (.called call.id? (some reply), { s with net })
    else (.called call.id? none, s.keep key kept)

def run (s : Session) (side : Side) (key : Option String) (script : Script) : Reply × Session :=
  match (s.net.node? side).filter (·.held) with
  | none => (.noEndpoint, s)
  | some _ =>
    let kept := Kept.task side s.net.nextSerial
    let s := { s with net := s.net.spawn side .caller script }
    match key with
    | some key => (.called none none, s.keep key kept)
    | none =>
      let (reply, net) := awaitReply s.net kept
      (reply, { s with net })

/-- Looks for the outcome of what is kept under a key, which is forgotten once it was found. -/
def poll (s : Session) (key : String) : Reply × Session :=
  match s.find? key with
  | none => (.unknown, s)
  | some kept =>
    match take? s.net kept with
    | some (outcome, net) => (.outcome outcome, { s.forget key with net })
    | none => (.pending, s)

/-- Waits for the outcome of what is kept under a key. -/
def await (s : Session) (key : String) : Reply × Session :=
  match s.find? key with
  | none => (.unknown, s)
  | some kept =>
    let (reply, net) := awaitReply s.net kept
    (reply, { s.forget key with net })

/-- All background loops of an endpoint have ended. -/
def hasStopped (net : Network) (side : Side) : Bool :=
  (net.node? side).any (·.endpoint.supervisor.allStopped)

/-- Waits until all background loops of an endpoint have ended. -/
def join (s : Session) (side : Side) : Reply × Session :=
  let attempt (net : Network) : Option (Unit × Network) :=
    if hasStopped net side then some ((), net) else none
  let (joined, net) := awaitWith attempt Network.patience s.net
  (.truth joined.isSome, { s with net })

/-- Whether all background loops of an endpoint have ended, those that can having gone on. -/
def isStopped (s : Session) (side : Side) : Reply × Session :=
  let net := s.net.settle
  (.truth (hasStopped net side), { s with net })

/-- Opens the gate of a name for whoever waits there. -/
def release (s : Session) (gate : String) (opening : Opening) : Reply × Session :=
  match s.net.gates.lookup gate with
  | none => (.noGate, s)
  | some ticket =>
    let net := { s.net with gates := s.net.gates.filter (·.1 != gate) }
    let reply :=
      match opening with
      | .dropped => Reply.dropped
      | _ => .truth (net.isAwaited ticket)
    (reply, { s with net := net.openGate ticket opening })

mutual

def perform (s : Session) : Command → Reply × Session
  | .ask side what => s.ask side what
  | .launch side key what result awaited => s.launch side key what result awaited
  | .run side key script => s.run side key script
  | .poll key => s.poll key
  | .await key => s.await key
  | .id key => (.id ((s.find? key).bind idOf), s)
  | .drop key =>
    let (existed, s) := s.drop key
    (.truth existed, s)
  | .describeCall key => (.described ((s.find? key).map describeKept), s)
  | .join side => s.join side
  | .isStopped side => s.isStopped side
  | .release gate opening => s.release gate opening
  | .write bytes none => s.write bytes
  | .write bytes (some commands) =>
    let (reply, s) := s.write bytes
    let (replies, s) := performAll s commands
    (.many [reply, .many replies], s)
  | .shutdown => s.shutdown
  | .close => s.close
  | .batch commands =>
    let (replies, s) := performAll s commands
    (.many replies, s)

def performAll (s : Session) : List Command → List Reply × Session
  | [] => ([], s)
  | command :: commands =>
    let (reply, s) := perform { s with net := s.net.wake } command
    let (replies, s) := performAll s commands
    (reply :: replies, s)

end

end Session

end DuplexRpc

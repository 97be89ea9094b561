import DuplexRpc.Proofs.Closing.Operations

/-! Scenes: a network and the calls that its callers hold, and all that can happen there. Besides the
steps of agents, callers make, poll and drop calls, those who hold an endpoint ask anything of it, and
background loops and tasks are cancelled at any time. Each of these is one step. The far end of a
stream that lies outside of the network writes, reads and closes as it likes. -/

namespace DuplexRpc

open ByteStream

/-- The call that a task waits for. -/
def Task.key? (t : Task) : Option (Nat × Id) :=
  match t.stand with
  | .awaiting call _ => call.key?
  | _ => none

/-- The background loops of a node. -/
inductive Loop where
  | receiving
  | writing
  | reading
deriving DecidableEq, Repr

/-- What the far end of a stream does. -/
inductive FarAct where
  | write (bytes : List UInt8)
  | shutdown
  | close
  | drain

namespace Network

/-- A background loop is dropped where it stands, if it is running. -/
def cancel (net : Network) (side : Side) (loop : Loop) : Network :=
  match net.node? side with
  | none => net
  | some n =>
    match loop with
    | .receiving => if n.receiving then net.endReceiving side else net
    | .writing => if n.writer.isSome then net.endWriting side else net
    | .reading => if n.reader.isSome then net.endReading side else net

/-- The far end does something, if it lies outside of the network. -/
def actFar (net : Network) (act : FarAct) : Network :=
  if net.b.isSome then net
  else
    match act with
    | .write bytes => net.mapPipeFrom .b (·.push bytes)
    | .shutdown => net.mapPipeFrom .b Pipe.closeWriter
    | .close => (net.mapPipeFrom .b Pipe.closeWriter).mapPipeFrom .a Pipe.closeReader
    | .drain => net.mapPipeFrom .a fun pipe => { pipe with bytes := [] }

end Network

/-- What can happen. -/
inductive Incident where
  | go (agent : Agent)
  | launch (side : Side) (what : Launch)
  /-- A caller runs a script as a task. -/
  | run (side : Side) (script : Script)
  | ask (side : Side) (what : Session.Ask)
  | poll (side : Side) (ticket : Nat)
  | drop (side : Side) (ticket : Nat)
  | abort (side : Side) (serial : Nat)
  | openGate (ticket : Nat) (opening : Opening)
  /-- Time goes on. -/
  | pass (span : Nat)
  | cancel (side : Side) (loop : Loop)
  | far (act : FarAct)

/-- The agent is the loop that handles frames for a side. -/
def Agent.IsLoop : Agent → Side → Prop
  | .receiving side _ => (side = ·)
  | _ => fun _ => False

/-- The loop that handles frames for a side goes on or is cancelled. -/
def Incident.IsLoop : Incident → Side → Prop
  | .go agent => agent.IsLoop
  | .cancel side .receiving => (side = ·)
  | _ => fun _ => False

/-- A network and the calls that callers hold at its endpoints, by ticket and id. -/
structure Scene where
  net : Network
  held : Side → List (Nat × Id) := fun _ => []

namespace Scene

def hold (s : Scene) (side : Side) (calls : List (Nat × Id)) : Scene :=
  { s with held := fun x => if x = side then calls ++ s.held x else s.held x }

def forget (s : Scene) (side : Side) (ticket : Nat) : Scene :=
  { s with held := fun x => if x = side then (s.held x).filter (·.1 != ticket) else s.held x }

/-- The node of a side while someone holds its endpoint. -/
def holder? (s : Scene) (side : Side) : Option Node :=
  (s.net.node? side).filter Node.isHeld

/-- What an incident does. One that cannot happen changes nothing. A call, a stop and the end of a loop
are done at once here; that nobody comes in between their parts is an assumption, and `Overlap` goes
without it. -/
def step (s : Scene) : Incident → Scene
  | .go agent => { s with net := s.net.step agent }
  | .launch side what =>
    match s.holder? side with
    | some n =>
      let (call, endpoint) := n.endpoint.launch s.net.clock what
      { s.hold side call.key?.toList with net := s.net.mapNode side fun n => { n with endpoint } }
    | none => s
  | .run side script =>
    match s.holder? side with
    | some _ => { s with net := s.net.spawn side .caller script }
    | none => s
  | .ask side what =>
    match s.holder? side with
    | some n => { s with net := (Session.askNode s.net side n what).2 }
    | none => s
  | .poll side ticket =>
    match s.net.node? side, (s.held side).lookup ticket with
    | some n, some id =>
      match n.endpoint.poll (.waiting id ticket) with
      | (some _, _, endpoint) =>
        { s.forget side ticket with net := s.net.mapNode side fun n => { n with endpoint } }
      | (none, _, _) => s
    | _, _ => s
  | .drop side ticket =>
    match (s.held side).lookup ticket with
    | some id =>
      { s.forget side ticket with
        net := s.net.mapNode side fun n => n.mapEndpoint (·.drop (.waiting id ticket)) }
    | none => s
  | .abort side serial => { s with net := s.net.abort side serial }
  | .openGate ticket opening => { s with net := s.net.openGate ticket opening }
  | .pass span => { s with net := { s.net with clock := s.net.clock + span } }
  | .cancel side loop => { s with net := s.net.cancel side loop }
  | .far act => { s with net := s.net.actFar act }

def run (s : Scene) (events : List Incident) : Scene :=
  events.foldl step s

/-- How endpoints come to be. -/
inductive Starts : Network → Prop where
  | lone (a : Setup) : Starts (.lone a)
  | connect {a b : Setup} {net : Network} (joined : Network.connect a b = .ok net) : Starts net
  | connectStream (a b : Setup) (capacity : Nat) : Starts (.connectStream a b capacity)
  | attach (a : Setup) (capacity : Nat) (faults : Faults) : Starts (.attach a capacity faults)

theorem run_append (s : Scene) (events more : List Incident) :
    s.run (events ++ more) = (s.run events).run more :=
  List.foldl_append

theorem run_cons (s : Scene) (ev : Incident) (events : List Incident) :
    s.run (ev :: events) = (s.step ev).run events :=
  rfl

end Scene

/-! ### The stance of a node -/

namespace Network

/-- What counts of a node, at whose endpoint callers hold calls. -/
def stance (net : Network) (side : Side) (held : List (Nat × Id)) (n : Node) : Stance where
  medium := net.link.medium
  codec := n.endpoint.config.codec
  pool := n.endpoint.pool
  stopped := n.endpoint.isStopped
  transport := n.endpoint.transport
  calls := held ++ n.tasks.filterMap Task.key?
  serials := n.tasks.map Task.serial
  next := net.nextSerial
  isHeld := n.isHeld
  receiving := n.receiving
  writing := n.writer.isSome
  reading := n.reader.isSome
  inboxOver := n.inbox.senderGone
  outOver := (net.pipeFrom? side).all (·.writerGone)
  inOver := (net.pipeFrom? side.other).all (·.readerGone)

end Network

/-- The stance of a node of a scene. -/
def Scene.stance (s : Scene) (side : Side) (n : Node) : Stance :=
  s.net.stance side (s.held side) n

namespace Stance

theorem holds_of_fresh {v : Stance} (serials : v.serials = []) (calls : v.calls = [])
    (pool : v.pool = {}) (held : v.isHeld = true)
    (running : v.receiving = true ∧ v.transport.codec? = some v.codec ∨ v.medium = .none)
    (stream : v.writing = true ∧ v.reading = true ∧ v.medium = .stream ∨
      v.writing = false ∧ v.medium ≠ .stream ∧ v.outOver = true ∧ v.inOver = true) : v.Holds where
  pool := pool ▸ PendingPool.sound_empty
  apart := by simp [calls]
  slot c hc := by simp [calls] at hc
  serials := by simp [serials]
  below k hk := by simp [serials] at hk
  released gone := by simp [held] at gone
  ended joined gone := by
    rcases running with ⟨running, -⟩ | lone
    · simp [running] at gone
    · exact absurd lone joined
  wired other := by
    rcases stream with ⟨-, -, stream⟩ | ⟨idle, -⟩
    · exact absurd stream other
    · exact idle
  drained medium done := by
    rcases stream with ⟨-, reading, -⟩ | ⟨-, other, -⟩
    · simp [reading] at done
    · exact absurd medium other
  unplugged idle done := by
    rcases stream with ⟨writing, -⟩ | ⟨-, -, gone⟩
    · simp [writing] at idle
    · exact gone
  queued joined := by
    rcases running with ⟨-, carried⟩ | lone
    · exact carried
    · exact absurd lone joined

end Stance

namespace Scene

/-- Every node of a scene holds what is kept by moves. -/
def Holds (s : Scene) : Prop :=
  ∀ side n, s.net.node? side = some n → (s.stance side n).Holds

/-- What holds of every node, more calls being there than those that callers and tasks hold. -/
def Regular (s : Scene) (more : Side → List (Nat × Id)) : Prop :=
  ∀ side n, s.net.node? side = some n → (s.net.stance side (s.held side ++ more side) n).Regular

theorem holds_start {net : Network} (starts : Starts net) : Holds { net } := by
  intro side n here
  cases starts with
  | lone a =>
    cases side with
    | a =>
      obtain rfl := Option.some.inj here
      exact Stance.holds_of_fresh rfl rfl rfl rfl (Or.inr rfl) (Or.inr ⟨rfl, nofun, rfl, rfl⟩)
    | b => cases here
  | connect joined =>
    rw [Network.connect] at joined
    split at joined
    · obtain rfl := Except.ok.inj joined
      cases side <;> obtain rfl := Option.some.inj here <;>
        exact Stance.holds_of_fresh rfl rfl rfl rfl (Or.inl ⟨rfl, rfl⟩) (Or.inr ⟨rfl, nofun, rfl, rfl⟩)
    · cases joined
  | connectStream a b capacity =>
    cases side <;> obtain rfl := Option.some.inj here <;>
      exact Stance.holds_of_fresh rfl rfl rfl rfl (Or.inl ⟨rfl, rfl⟩) (Or.inl ⟨rfl, rfl, rfl⟩)
  | attach a capacity faults =>
    cases side with
    | a =>
      obtain rfl := Option.some.inj here
      exact Stance.holds_of_fresh rfl rfl rfl rfl (Or.inl ⟨rfl, rfl⟩) (Or.inl ⟨rfl, rfl, rfl⟩)
    | b => cases here

end Scene

end DuplexRpc

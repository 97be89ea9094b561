import DuplexRpc.Supervisor
import DuplexRpc.Value.Basic

/-!
A bench for groups: tasks and guards are known by keys, and each task waits at a gate of its key
until it is released. What tasks do when they end goes to a log.
-/

namespace DuplexRpc

/-- A group with the keys of its gates and its guards, none once its supervisor is gone. -/
structure SupervisorBench where
  group : SupervisedGroup := {}
  held : Bool := true
  /-- The tasks that gates were made for, by key. -/
  gates : List (String × Nat) := []
  /-- The guards that are held, by key. -/
  guards : List (String × Nat) := []

namespace SupervisorBench

/-- What is done at a bench. -/
inductive Action where
  /-- Starts a task that waits at a gate. -/
  | spawn (key : String)
  /-- Starts a task that ends at once. -/
  | spawnDone (key : String)
  | release (key : String)
  | hold (key : String)
  | letGo (key : String)
  /-- Whether a guard has seen the request to stop. -/
  | hasSeenStop (key : String)
  | stop
  /-- Makes something that asks for a stop when it goes, and lets it go. -/
  | stopByGuard
  /-- Lets go of the supervisor. -/
  | drop
deriving DecidableEq, Repr

/-- What comes of an action. -/
inductive Result where
  | nothing
  | truth (b : Bool)
  | noGate
  | noSupervisor
deriving DecidableEq, Repr

def Action.needsSupervisor : Action → Bool
  | .spawn _ | .spawnDone _ | .hold _ | .stop | .stopByGuard => true
  | _ => false

/-- The entry of a task that ends. -/
def entry (key : String) (ok : Option Bool) : Value :=
  .ofFields ([("done", .str key)] ++ (ok.map fun ok => ("ok", .bool ok)).toList)

/-- Ends the task that waits at the gate of a key; false where no task waits there any more. -/
def endTask (b : SupervisorBench) (key : String) (ok : Bool) :
    Option Bool × SupervisorBench × List Value :=
  match b.gates.lookup key with
  | none => (none, b, [])
  | some ticket =>
    let waits := b.group.contains (.task ticket)
    let b :=
      { b with
        group := b.group.after (.finish ticket)
        gates := b.gates.filter (·.1 != key) }
    (some waits, b, if waits then [entry key (some ok)] else [])

/-- Starts a task at the gate of a key. Whoever waited there before waits in vain. -/
def spawn (b : SupervisorBench) (key : String) : SupervisorBench × List Value :=
  let ticket := b.group.nextTicket
  let (_, b, log) := { b with group := b.group.after .spawn }.endTask key false
  ({ b with gates := (key, ticket) :: b.gates }, log)

/-- Starts a task that ends at once; one that starts too late does nothing. -/
def spawnDone (b : SupervisorBench) (key : String) : SupervisorBench × List Value :=
  let ticket := b.group.nextTicket
  let log := if b.group.supervisor.stopRequested then [] else [entry key none]
  ({ b with group := (b.group.after .spawn).after (.finish ticket) }, log)

/-- Lets go of the guard of a key. -/
def letGo (b : SupervisorBench) (key : String) : Bool × SupervisorBench :=
  match b.guards.lookup key with
  | none => (false, b)
  | some ticket =>
    (true,
      { b with
        group := b.group.after (.finish ticket)
        guards := b.guards.filter (·.1 != key) })

/-- Holds a guard under a key, in place of the one that was held before. -/
def hold (b : SupervisorBench) (key : String) : Bool × SupervisorBench :=
  let ticket := b.group.nextTicket
  let (replaced, b) := { b with group := b.group.after .hold }.letGo key
  (replaced, { b with guards := (key, ticket) :: b.guards })

def stop (b : SupervisorBench) : SupervisorBench :=
  { b with group := b.group.after .stop }

/-- Does something, before what runs has gone on. -/
def act (b : SupervisorBench) : Action → Result × SupervisorBench × List Value
  | .spawn key => (.nothing, b.spawn key)
  | .spawnDone key => (.nothing, b.spawnDone key)
  | .release key =>
    let (waited, b, log) := b.endTask key true
    ((waited.map Result.truth).getD .noGate, b, log)
  | .hold key =>
    let (replaced, b) := b.hold key
    (.truth replaced, b, [])
  | .letGo key =>
    let (held, b) := b.letGo key
    (.truth held, b, [])
  | .hasSeenStop key =>
    let seen := (b.guards.lookup key).map fun _ => b.group.supervisor.stopRequested
    ((seen.map Result.truth).getD .nothing, b, [])
  | .stop | .stopByGuard => (.nothing, b.stop, [])
  | .drop => (.nothing, { b.stop with held := false }, [])

/-- Does something, and lets everything end that is asked to stop. -/
def step (b : SupervisorBench) (action : Action) : Result × SupervisorBench × List Value :=
  if action.needsSupervisor && !b.held then (.noSupervisor, b, [])
  else
    let (result, b, log) := b.act action
    (result, { b with group := b.group.settle }, log)

end SupervisorBench

end DuplexRpc

import DuplexRpc.Endpoint.Call
import DuplexRpc.Endpoint.Dispatch

/-!
Tasks: scripts that run at an endpoint and hold it while they run. Handlers run as tasks, and so do
calls that are made on behalf of a caller who can give them up.
-/

namespace DuplexRpc

/-- Why a task runs. -/
inductive Role where
  | handler (origin : Origin)
  /-- The outcome is kept for a caller. -/
  | caller
deriving DecidableEq, Repr

/-- Where a task stands. -/
inductive Stand where
  | going (script : Script)
  /-- It waits at the gate with the ticket. -/
  | atGate (ticket : Nat) (next : Opening → Script)
  | awaiting (call : Call) (next : Outcome → Script)

/-- A script that runs. -/
structure Task where
  serial : Nat
  role : Role
  stand : Stand

namespace Task

/-- The task waits at the gate with the ticket. -/
def isAtGate (t : Task) (ticket : Nat) : Bool :=
  match t.stand with
  | .atGate k _ => k == ticket
  | _ => false

/-- The task goes on if it waits at the gate with the ticket. -/
def open_ (t : Task) (ticket : Nat) (opening : Opening) : Task :=
  match t.stand with
  | .atGate k next => if k = ticket then { t with stand := .going (next opening) } else t
  | _ => t

end Task

end DuplexRpc

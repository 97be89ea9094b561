/-!
Supervision of background tasks: how many run, whether they are asked to stop, and whether all have
stopped. A supervisor starts with one task of its own, its sentinel, which ends once it is asked to
stop; so the number of running tasks does not reach zero before.

A group is a supervisor with the members that it counts as running. A member is the sentinel, a task or
a guard that someone holds. The sentinel ends only where the group is asked to stop; a task ends by
itself, or because of that.
-/

namespace DuplexRpc

/-- The state of a supervisor. -/
structure Supervisor where
  running : Nat
  stopRequested : Bool
  /-- Set once no task runs, and never reset. -/
  allStopped : Bool
deriving DecidableEq, Repr

namespace Supervisor

/-- A new supervisor, with its sentinel running. -/
def create : Supervisor :=
  ⟨1, false, false⟩

def start (s : Supervisor) : Supervisor :=
  { s with running := s.running + 1 }

def finish (s : Supervisor) : Supervisor :=
  { s with running := s.running - 1, allStopped := s.allStopped || s.running - 1 == 0 }

def stop (s : Supervisor) : Supervisor :=
  { s with stopRequested := true }

end Supervisor

/-- What a supervisor counts as running. -/
inductive Member where
  | sentinel
  | task (ticket : Nat)
  | guard (ticket : Nat)
deriving DecidableEq, Repr

namespace Member

/-- The member ends by itself once it is asked to stop. -/
def heedsStop : Member → Bool
  | .guard _ => false
  | _ => true

end Member

/-- A supervisor and its members. -/
structure SupervisedGroup where
  supervisor : Supervisor := .create
  members : List Member := [.sentinel]
  nextTicket : Nat := 0
deriving DecidableEq, Repr

namespace SupervisedGroup

/-- Adds a member under the next ticket. -/
def add (g : SupervisedGroup) (member : Nat → Member) : SupervisedGroup :=
  { supervisor := g.supervisor.start
    members := g.members ++ [member g.nextTicket]
    nextTicket := g.nextTicket + 1 }

def remove (g : SupervisedGroup) (member : Member) : SupervisedGroup :=
  if g.members.contains member then
    { g with supervisor := g.supervisor.finish, members := g.members.erase member }
  else g

def stop (g : SupervisedGroup) : SupervisedGroup :=
  { g with supervisor := g.supervisor.stop }

/-- What can happen to a group. -/
inductive Event where
  /-- A task starts. -/
  | spawn
  /-- Someone starts to hold a guard. -/
  | hold
  /-- A task ends, or someone lets go of a guard. -/
  | finish (ticket : Nat)
  | stop
  /-- A member ends because the group was asked to stop. -/
  | heed (member : Member)
deriving DecidableEq, Repr

/-- What an event does. An event that cannot happen changes nothing. -/
def after (g : SupervisedGroup) : Event → SupervisedGroup
  | .spawn => g.add .task
  | .hold => g.add .guard
  | .finish ticket => (g.remove (.task ticket)).remove (.guard ticket)
  | .stop => g.stop
  | .heed member =>
    if g.supervisor.stopRequested && member.heedsStop then g.remove member else g

/-- The group after all members have ended that are asked to stop. -/
def settle (g : SupervisedGroup) : SupervisedGroup :=
  g.members.foldl (fun g member => g.after (.heed member)) g

def contains (g : SupervisedGroup) (member : Member) : Bool :=
  g.members.contains member

end SupervisedGroup

end DuplexRpc

import DuplexRpc.Error.Basic

/-!
Slots: where the outcome of a request is left for its caller. A slot is filled at most once; a slot
that can no longer be filled is abandoned.
-/

namespace DuplexRpc

/-- How a request ends. -/
abbrev Outcome :=
  Except RpcError Value

/-- The state of a slot. -/
inductive Slot where
  | vacant
  | filled (outcome : Outcome)
  | abandoned

/-- What the caller gets from a slot, none while it has to wait. -/
def Slot.outcome? : Slot → Option Outcome
  | .vacant => none
  | .filled outcome => some outcome
  | .abandoned => some (.error .interrupted)

/-- The slots of the callers that have not gone, by ticket. -/
abbrev Slots :=
  List (Nat × Slot)

namespace Slots

def find? (slots : Slots) (ticket : Nat) : Option Slot :=
  slots.lookup ticket

/-- Changes a slot that is vacant. A slot that is not is left as it is. -/
def settle (slots : Slots) (ticket : Nat) (slot : Slot) : Slots :=
  slots.map fun (t, s) =>
    match t == ticket, s with
    | true, .vacant => (t, slot)
    | _, s => (t, s)

/-- The slots without the one of a ticket. -/
def erase (slots : Slots) (ticket : Nat) : Slots :=
  slots.filter (·.1 != ticket)

end Slots

end DuplexRpc

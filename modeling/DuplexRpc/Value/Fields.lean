/-!
Fields: entries in rising order of their names, one entry a name. `insert` keeps the order and
replaces an entry of the same name, so of repeated names the last one counts.
-/

namespace DuplexRpc.Fields

variable {β : Type}

def insert (name : String) (x : β) : List (String × β) → List (String × β)
  | [] => [(name, x)]
  | (name', x') :: rest =>
    if name < name' then (name, x) :: (name', x') :: rest
    else if name = name' then (name, x) :: rest
    else (name', x') :: insert name x rest

/-- The entries given, in order; of repeated names the last one counts. -/
def ofList (entries : List (String × β)) : List (String × β) :=
  entries.foldl (fun fields e => insert e.1 e.2 fields) []

def get? (name : String) : List (String × β) → Option β
  | [] => none
  | (name', x) :: rest => if name = name' then some x else get? name rest

/-- The entries without the one of a name. -/
def erase (name : String) : List (String × β) → List (String × β)
  | [] => []
  | (name', x) :: rest => if name = name' then rest else (name', x) :: erase name rest

/-- The names rise strictly. -/
def Sorted (fields : List (String × β)) : Prop :=
  fields.Pairwise (fun a b => a.1 < b.1)

end DuplexRpc.Fields

import DuplexRpc.Id

/-!
Where the ids of new requests come from: a counter that wraps around, or a list of ids handed out
in turn.
-/

namespace DuplexRpc

/-- Hands out ids. -/
inductive IdSource where
  /-- Counts up from `next`; after the greatest 64-bit integer comes the least. -/
  | sequence (next : Int64)
  /-- Hands out the ids of a list in turn, over and over. `left` is what is left of this turn. -/
  | cycle (ids left : List Id)
deriving DecidableEq, Repr

namespace IdSource

/-- The ids of a list, in turn. -/
def ofList (ids : List Id) : IdSource :=
  .cycle ids ids

/-- The next id, and the source after it. An empty list counts up from zero instead. -/
def take : IdSource → Id × IdSource
  | .sequence next => (.ofInt64 next, .sequence (next + 1))
  | .cycle ids (id :: left) => (id, .cycle ids left)
  | .cycle (id :: rest) [] => (id, .cycle (id :: rest) rest)
  | .cycle [] [] => (.ofInt64 0, .sequence 1)

/-- The next ids, as many as asked for. -/
def takeMany (source : IdSource) : (count : Nat) → List Id
  | 0 => []
  | count + 1 =>
    let (id, source) := source.take
    id :: takeMany source count

end IdSource

end DuplexRpc

import DuplexRpc.Double.Text

/-!
The numbers of the wire: integers from -2^63 up to 2^64 - 1, and finite binary64 numbers. The two
kinds are kept apart, so 1 and 1.0 are different numbers.
-/

namespace DuplexRpc

/-- The integers that the wire formats carry exactly. -/
abbrev WireRange (i : Int) : Prop :=
  -0x8000000000000000 ≤ i ∧ i < 0x10000000000000000

/-- A number of the wire. -/
inductive Number where
  | int (i : Int) (inRange : WireRange i)
  | float (x : Double) (finite : x.isFinite = true)
deriving DecidableEq, Repr

namespace Number

/-- An integer as a number, none outside the wire's range. -/
def ofInt? (i : Int) : Option Number :=
  if h : WireRange i then some (.int i h) else none

/-- A binary64 number as a number, none for an infinity or a NaN. -/
def ofDouble? (x : Double) : Option Number :=
  if h : x.isFinite = true then some (.float x h) else none

def ofUInt64 (n : UInt64) : Number :=
  .int n.toNat ⟨by omega, by have := n.toNat_lt; omega⟩

def ofInt64 (i : Int64) : Number :=
  .int i.toInt ⟨by have := i.le_toInt; omega, by have := i.toInt_lt; omega⟩

/-- Equal as numbers: kind and value agree, and the two zeros of the second kind are equal. -/
def same : Number → Number → Bool
  | .int i _, .int j _ => i == j
  | .float x _, .float y _ => x.same y
  | _, _ => false

def text : Number → String
  | .int i _ => toString i
  | .float x _ => x.render

end Number

end DuplexRpc

/-!
Spans of time.
-/

namespace DuplexRpc

/-- A span of time in nanoseconds. -/
structure Duration where
  nanos : Nat
deriving DecidableEq, Repr

namespace Duration

/-- Nanoseconds in a second. -/
def nanosPerSecond : Nat :=
  1000000000

/-- The limit of whole seconds, and of the numbers in the text of a span. -/
def limit : Nat :=
  0x10000000000000000

/-- Whole seconds and the nanoseconds after them. -/
def ofParts (seconds nanos : Nat) : Duration :=
  ⟨seconds * nanosPerSecond + nanos⟩

def ofMillis (n : Nat) : Duration :=
  ⟨n * 1000000⟩

def seconds (d : Duration) : Nat :=
  d.nanos / nanosPerSecond

/-- The nanoseconds after the last whole second. -/
def subsecond (d : Duration) : Nat :=
  d.nanos % nanosPerSecond

def millis (d : Duration) : Nat :=
  d.nanos / 1000000

def longest : Duration :=
  ofParts (limit - 1) (nanosPerSecond - 1)

end Duration

end DuplexRpc

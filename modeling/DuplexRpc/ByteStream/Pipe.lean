import DuplexRpc.Error.Chain

/-!
Pipes: bytes on their way in one direction, of which a pipe holds a bounded number. And what can go
wrong at one end of a connection of two pipes.
-/

namespace DuplexRpc.ByteStream

/-- Bytes on their way. -/
structure Pipe where
  capacity : Nat
  bytes : List UInt8 := []
  /-- Nothing more will be written. -/
  writerGone : Bool := false
  /-- Nothing more will be read. -/
  readerGone : Bool := false
deriving DecidableEq, Repr

namespace Pipe

/-- How many more bytes the pipe takes. -/
def space (p : Pipe) : Nat :=
  p.capacity - p.bytes.length

def isClosed (p : Pipe) : Bool :=
  p.writerGone || p.readerGone

def push (p : Pipe) (bytes : List UInt8) : Pipe :=
  { p with bytes := p.bytes ++ bytes }

def closeWriter (p : Pipe) : Pipe :=
  { p with writerGone := true }

def closeReader (p : Pipe) : Pipe :=
  { p with readerGone := true }

end Pipe

/-- A way in which writing fails. -/
inductive WriteFault where
  | error (kind : IoKind)
  /-- Writes take nothing. -/
  | zero
deriving DecidableEq, Repr

/-- What goes wrong at one end of a connection. -/
structure Faults where
  /-- How reading fails, and after how many bytes. -/
  read : Option (IoKind × Nat) := none
  write : Option WriteFault := none
  /-- How flushing fails, after the bytes went through. -/
  flush : Option IoKind := none
  /-- How many bytes a write takes at most. -/
  writeLimit : Option Nat := none
deriving DecidableEq, Repr

/-- What comes of an attempt at one end of a connection. -/
inductive Attempt (α : Type) where
  | blocked
  | failed (kind : IoKind)
  | done (x : α)
deriving DecidableEq, Repr

/-- Tries to write bytes: how many went in, and the pipe after it. -/
def Faults.write? (f : Faults) (p : Pipe) (bytes : List UInt8) : Attempt (Nat × Pipe) :=
  match f.write with
  | some (.error kind) => .failed kind
  | some .zero => .done (0, p)
  | none =>
    if p.isClosed then .failed .brokenPipe
    else
      let n := min p.space ((f.writeLimit.map fun k => min k bytes.length).getD bytes.length)
      if p.space = 0 then .blocked else .done (n, p.push (bytes.take n))

/-- How many bytes may still be read, `before` bytes having been read already. -/
def Faults.readable (f : Faults) (p : Pipe) (before : Nat) : Nat :=
  match f.read with
  | some (_, after) => min (after - before) p.bytes.length
  | none => p.bytes.length

/-- Tries to read, `before` bytes having been read already: the bytes, none at the end of the
stream, and the pipe after it. -/
def Faults.read? (f : Faults) (p : Pipe) (before : Nat) : Attempt (List UInt8 × Pipe) :=
  match f.read.filter (·.2 ≤ before) with
  | some (kind, _) => .failed kind
  | none =>
    let n := f.readable p before
    if n = 0 ∧ ¬ p.isClosed then .blocked
    else .done (p.bytes.take n, { p with bytes := p.bytes.drop n })

end DuplexRpc.ByteStream

import DuplexRpc.ByteStream.Framing

/-!
Writing frames to a stream that takes them in parts. Frames are written in batches; a batch is a
list of slices, lengths and frames in turn, and every write takes some bytes from its front.
-/

namespace DuplexRpc.ByteStream

/-- How many frames a batch holds at most. -/
def batchLimit : Nat :=
  64

def slices (frames : List Frame) : List (List UInt8) :=
  frames.flatMap fun frame => [header frame, frame]

/-- What is left of slices after bytes were taken from their front. A slice that is used up is
dropped, and so are empty slices after it. -/
def advance : (n : Nat) → List (List UInt8) → List (List UInt8)
  | _, [] => []
  | n, slice :: rest =>
    if slice.length ≤ n then advance (n - slice.length) rest else slice.drop n :: rest

/-- What a writer is doing. -/
inductive FrameWriter where
  /-- It waits for frames. -/
  | idle
  /-- It has slices left of a batch. -/
  | writing (slices : List (List UInt8))
deriving DecidableEq, Repr

namespace FrameWriter

def load (frames : List Frame) : FrameWriter :=
  .writing (slices frames)

/-- The error of a write that took nothing. -/
def zeroWrite : RpcError :=
  .sendFailed "write zero"

/-- Goes on after a write of `n` bytes. -/
def wrote (n : Nat) (slices : List (List UInt8)) : Except RpcError FrameWriter :=
  if n = 0 then .error zeroWrite
  else
    match advance n slices with
    | [] => .ok .idle
    | rest => .ok (.writing rest)

end FrameWriter

end DuplexRpc.ByteStream

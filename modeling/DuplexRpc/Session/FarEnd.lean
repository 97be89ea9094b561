import DuplexRpc.Session.Basic

/-!
The far end of a stream: bytes are written as the stream takes them, and read as they come, the
network going on meanwhile.
-/

namespace DuplexRpc

open ByteStream

namespace Session

/-- Writes bytes at the far end; false where they are not all taken. Each round but the first takes
a byte, or the stream is stuck. -/
def pushAll : (rounds : Nat) → List UInt8 → Network → Bool × Network
  | 0, _, net => (false, net)
  | rounds + 1, bytes, net =>
    if bytes.isEmpty then (true, net)
    else
      match net.pipeFrom? .b with
      | none => (false, net)
      | some pipe =>
        if pipe.isClosed then (false, net)
        else
          let rest := bytes.drop pipe.space
          let net := net.mapPipeFrom .b (·.push (bytes.take pipe.space))
          if rest.isEmpty then (true, net) else pushAll rounds rest net.settle

def withFarEnd (s : Session) (f : FarEnd → Reply × Session) : Reply × Session :=
  match s.farEnd with
  | some far => if far.isOpen then f far else (.closed, s)
  | none => (.closed, s)

def write (s : Session) (bytes : List UInt8) : Reply × Session :=
  s.withFarEnd fun _ =>
    let (done, net) := pushAll (bytes.length + 2) bytes s.net
    (.truth done, { s with net })

def shutdown (s : Session) : Reply × Session :=
  s.withFarEnd fun _ => (.truth true, { s with net := s.net.mapPipeFrom .b Pipe.closeWriter })

def close (s : Session) : Reply × Session :=
  s.withFarEnd fun far =>
    (.nothing,
      { s with
        net := (s.net.mapPipeFrom .b Pipe.closeWriter).mapPipeFrom .a Pipe.closeReader
        farEnd := some { far with isOpen := false } })

/-- Reads all bytes that come, as long as some do. -/
def pullAll : (rounds : Nat) → Network → List UInt8 × Network
  | 0, net => ([], net)
  | rounds + 1, net =>
    match net.pipeFrom? .a with
    | none => ([], net)
    | some pipe =>
      if pipe.bytes.isEmpty then ([], net)
      else
        let drained := net.mapPipeFrom .a fun p => { p with bytes := [] }
        let (more, net) := pullAll rounds drained.settle
        (pipe.bytes ++ more, net)

/-- What was read at the far end. -/
structure Reception where
  frames : List Frame := []
  /-- How many bytes are left that are not a frame. -/
  leftover : Nat := 0
  /-- The endpoint writes nothing more. -/
  isOver : Bool := false

def read (s : Session) : Reception × Session :=
  match s.farEnd with
  | some far =>
    if far.isOpen then
      let (bytes, net) := pullAll Network.patience s.net
      let (frames, left) := takeFrames 0x100000000 (far.buffer ++ bytes)
      let buffer := left.toOption.getD []
      let isOver := (net.pipeFrom? .a).any (·.writerGone)
      ({ frames, leftover := buffer.length, isOver },
        { s with net, farEnd := some { far with buffer } })
    else ({}, s)
  | none => ({}, s)

end Session

end DuplexRpc

import DuplexRpc.ByteStream.Framing

/-!
Reading frames from a stream that comes in pieces.
-/

namespace DuplexRpc.ByteStream

/-- The bytes read from a stream that are not yet frames. -/
structure FrameReader where
  limit : Nat
  buffer : List UInt8 := []
deriving DecidableEq, Repr

namespace FrameReader

/-- Takes a piece of the stream: gives the frames that it completes, and the reader after it, or why
the stream cannot be read any further. -/
def feed (r : FrameReader) (piece : List UInt8) : List Frame × Except RpcError FrameReader :=
  let (frames, left) := takeFrames r.limit (r.buffer ++ piece)
  (frames, left.map fun buffer => { r with buffer })

/-- The stream ends, which it may do between frames alone. -/
def finish (r : FrameReader) : Except RpcError Unit :=
  if r.buffer.isEmpty then .ok ()
  else .error (.parse s!"eof inside a frame, {r.buffer.length} bytes pending")

/-- Reads a whole stream in pieces: the frames in it, and how it ended. -/
def readAll (r : FrameReader) : List (List UInt8) → List Frame × Except RpcError Unit
  | [] => ([], r.finish)
  | piece :: pieces =>
    match r.feed piece with
    | (frames, .error e) => (frames, .error e)
    | (frames, .ok r) =>
      let (more, ending) := readAll r pieces
      (frames ++ more, ending)

end FrameReader

end DuplexRpc.ByteStream

import DuplexRpc.Bytes.BigEndian
import DuplexRpc.Endpoint.Transport

/-!
Frames in a stream of bytes: the length of each frame in four bytes, and then the frame.
-/

namespace DuplexRpc.ByteStream

open Bytes

/-- How many bytes the length of a frame takes. -/
def headerSize : Nat :=
  4

def header (frame : Frame) : List UInt8 :=
  bigEndian headerSize frame.length

def framed (frame : Frame) : List UInt8 :=
  header frame ++ frame

/-- Frames in a stream, one after the other. -/
def framedAll (frames : List Frame) : List UInt8 :=
  frames.flatMap framed

/-- Takes a frame from the front of the bytes, none where it is not complete. Its length is refused
as soon as it is known. -/
def takeFrame (limit : Nat) (bytes : List UInt8) : Except RpcError (Option (Frame × List UInt8)) :=
  match splitExact headerSize bytes with
  | none => .ok none
  | some (length, rest) =>
    let n := ofBigEndian length
    if limit < n then .error (.parse s!"frame is too long: {n}")
    else .ok (splitExact n rest)

theorem splitExact_length {n : Nat} {bytes front rest : List UInt8}
    (h : splitExact n bytes = some (front, rest)) : bytes.length = n + rest.length := by
  induction n generalizing bytes front with
  | zero => simp_all [splitExact]
  | succ n ih =>
    cases bytes with
    | nil => simp [splitExact] at h
    | cons b bytes =>
      simp only [splitExact] at h
      split at h
      · rename_i hs
        simp only [Option.some.injEq, Prod.mk.injEq] at h
        obtain ⟨-, rfl⟩ := h
        have := ih hs
        simp only [List.length_cons]
        omega
      · simp at h

theorem takeFrame_length {limit : Nat} {bytes frame rest : List UInt8}
    (h : takeFrame limit bytes = .ok (some (frame, rest))) : rest.length < bytes.length := by
  unfold takeFrame at h
  split at h
  · simp at h
  · rename_i hs
    have h1 := splitExact_length hs
    simp only [] at h
    split at h
    · simp at h
    · simp only [Except.ok.injEq] at h
      have h2 := splitExact_length h
      simp only [headerSize] at h1
      omega

/-- What complete frames leave: bytes of a frame that is not complete, or an error. -/
abbrev Leftover :=
  Except RpcError (List UInt8)

/-- Takes all complete frames from the front of the bytes, up to the first that is refused. -/
def takeFrames (limit : Nat) (bytes : List UInt8) : List Frame × Leftover :=
  match _h : takeFrame limit bytes with
  | .error e => ([], .error e)
  | .ok none => ([], .ok bytes)
  | .ok (some (frame, rest)) =>
    let (frames, left) := takeFrames limit rest
    (frame :: frames, left)
termination_by bytes.length
decreasing_by exact takeFrame_length ‹_›

end DuplexRpc.ByteStream

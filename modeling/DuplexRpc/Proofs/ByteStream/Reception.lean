import DuplexRpc.Proofs.ByteStream.Decoding

/-! The loop that reads a stream, on bytes that anyone may have sent. It ends, it takes no byte that
its buffer does not have, and neither what it delivers nor how it ends depends on the pieces in which
the stream comes. -/

namespace DuplexRpc.ByteStream

open Bytes

variable {limit : Nat} {buffer : List UInt8}

/-! ### Taking a frame in place -/

/-- Takes a frame from a buffer whose length is compared before its bytes are taken. None where a byte
is taken that the buffer does not have. -/
def takeFrameInPlace (limit : Nat) (buffer : List UInt8) :
    Option (Except RpcError (Option (Frame × List UInt8))) :=
  if buffer.length < headerSize then some (.ok none)
  else do
    let n := ofBigEndian [← buffer[0]?, ← buffer[1]?, ← buffer[2]?, ← buffer[3]?]
    if limit < n then some (.error (.parse s!"frame is too long: {n}"))
    else if buffer.length < headerSize + n then some (.ok none)
    else do
      let (_, body) ← splitExact headerSize buffer
      some (.ok (some (← splitExact n body)))

/-- The comparisons suffice, and taking a frame in place is taking a frame. -/
theorem takeFrameInPlace_eq (limit : Nat) (buffer : List UInt8) :
    takeFrameInPlace limit buffer = some (takeFrame limit buffer) := by
  unfold takeFrameInPlace takeFrame
  match buffer with
  | [] | [_] | [_, _] | [_, _, _] => rfl
  | b₀ :: b₁ :: b₂ :: b₃ :: body =>
    generalize count : ofBigEndian [b₀, b₁, b₂, b₃] = n
    have header : splitExact headerSize (b₀ :: b₁ :: b₂ :: b₃ :: body) =
        some ([b₀, b₁, b₂, b₃], body) := rfl
    have length : (b₀ :: b₁ :: b₂ :: b₃ :: body).length = headerSize + body.length := by
      simp only [List.length_cons, headerSize]
      omega
    simp only [header, length, List.getElem?_cons_zero, List.getElem?_cons_succ, bind,
      Option.bind_some, count, Nat.not_lt_of_le (Nat.le_add_right _ _), if_false,
      Nat.add_lt_add_iff_left]
    split
    · rfl
    · cases split : splitExact n body with
      | none => rw [if_pos (splitExact_eq_none_iff.mp split)]
      | some parts =>
        rw [if_neg fun short => by rw [splitExact_eq_none_iff.mpr short] at split; cases split]
        rfl

/-! ### The loop -/

/-- The loop that reads a stream in pieces, and what it delivered. -/
structure Receiver where
  reader : FrameReader
  /-- The pieces that were not read yet. -/
  pieces : List (List UInt8)
  delivered : List Frame := []

namespace Receiver

/-- What a turn of the loop comes to. -/
inductive Turn where
  | goesOn (r : Receiver)
  | ends (ending : Except RpcError Unit)

/-- A turn of the loop. A frame that is complete is delivered before anything is read. To read nothing
is to find the end of the stream. None where it takes a byte that its buffer does not have. -/
def turn (r : Receiver) : Option Turn := do
  match ← takeFrameInPlace r.reader.limit r.reader.buffer with
  | .error e => return .ends (.error e)
  | .ok (some (frame, buffer)) =>
    return .goesOn { r with reader := { r.reader with buffer }, delivered := r.delivered ++ [frame] }
  | .ok none =>
    match r.pieces with
    | [] | [] :: _ => return .ends r.reader.finish
    | piece :: pieces =>
      return .goesOn { r with reader := { r.reader with buffer := r.reader.buffer ++ piece }, pieces }

/-- What the loop delivers and how it ends, if it does so within a number of turns. -/
def run : (turns : Nat) → Receiver → Option (List Frame × Except RpcError Unit)
  | 0, _ => none
  | turns + 1, r =>
    match r.turn with
    | none => none
    | some (.goesOn r) => run turns r
    | some (.ends ending) => some (r.delivered, ending)

/-- The bytes that were not delivered. -/
def remaining (r : Receiver) : List UInt8 :=
  r.reader.buffer ++ r.pieces.flatten

/-- How many turns the loop goes on at most: one for each byte, one for each piece. -/
def work (r : Receiver) : Nat :=
  r.pieces.length + r.remaining.length

/-- The loop delivers the frames of the bytes that are left, and ends as they do. -/
theorem run_eq (r : Receiver) (nonempty : ∀ piece ∈ r.pieces, piece ≠ []) {turns : Nat}
    (enough : r.work < turns) :
    r.run turns = some (r.delivered ++ (takeFrames r.reader.limit r.remaining).1,
      (takeFrames r.reader.limit r.remaining).2.bind fun buffer =>
        FrameReader.finish { r.reader with buffer }) := by
  induction turns generalizing r with
  | zero => exact absurd enough (Nat.not_lt_zero _)
  | succ turns ih =>
    obtain ⟨⟨limit, buffer⟩, pieces, delivered⟩ := r
    simp only [work, remaining] at enough
    simp only [run, turn, remaining, takeFrameInPlace_eq, bind, Option.bind_some]
    rcases taken : takeFrame limit buffer with e | _ | ⟨frame, rest⟩
    · rw [takeFrames_of_error (takeFrame_append_error taken _), List.append_nil]
      rfl
    · match pieces with
      | [] =>
        rw [List.flatten_nil, List.append_nil, takeFrames_of_none taken, List.append_nil]
        rfl
      | [] :: _ => exact absurd rfl (nonempty [] List.mem_cons_self)
      | (b :: piece) :: pieces =>
        have left : Receiver.remaining ⟨⟨limit, buffer ++ b :: piece⟩, pieces, delivered⟩ =
            buffer ++ ((b :: piece) :: pieces).flatten := by
          rw [remaining, List.flatten_cons, List.append_assoc]
        have less : Receiver.work ⟨⟨limit, buffer ++ b :: piece⟩, pieces, delivered⟩ < turns := by
          rw [work, left]
          show pieces.length + _ < turns
          rw [List.length_cons] at enough
          omega
        have next := ih _ (fun piece mem => nonempty piece (List.mem_cons_of_mem _ mem)) less
        rw [left] at next
        exact next
    · have less : Receiver.work ⟨⟨limit, rest⟩, pieces, delivered ++ [frame]⟩ < turns := by
        have shorter := takeFrame_length taken
        show pieces.length + (rest ++ pieces.flatten).length < turns
        rw [List.length_append] at enough ⊢
        omega
      have next := ih ⟨⟨limit, rest⟩, pieces, delivered ++ [frame]⟩ nonempty less
      rw [takeFrames_of_some (takeFrame_append taken _), List.append_cons]
      exact next

end Receiver

end DuplexRpc.ByteStream

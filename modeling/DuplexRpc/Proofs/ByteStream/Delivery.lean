import DuplexRpc.ByteStream.Reading
import DuplexRpc.Bytes.RoundTrip
import DuplexRpc.Proofs.ByteStream.Sending

/-! What a reader makes of a stream does not depend on how the stream is cut, and from the stream of
a sender it reads the frames that were sent. -/

namespace DuplexRpc.ByteStream

open Bytes

variable {limit : Nat} {bytes frame rest : List UInt8}

/-! ### Bytes that come later -/

theorem splitExact_append_right {n : Nat} {front rest : List UInt8}
    (h : splitExact n bytes = some (front, rest)) (more : List UInt8) :
    splitExact n (bytes ++ more) = some (front, rest ++ more) := by
  induction n generalizing bytes front rest with
  | zero =>
    simp only [splitExact, Option.some.injEq, Prod.mk.injEq] at h ⊢
    exact ⟨h.1, by rw [h.2]⟩
  | succ n ih =>
    cases bytes with
    | nil => simp [splitExact] at h
    | cons b bytes =>
      rw [splitExact] at h
      split at h
      · rename_i found
        simp only [Option.some.injEq, Prod.mk.injEq] at h
        rw [List.cons_append, splitExact, ih found]
        simp only [Option.some.injEq, Prod.mk.injEq]
        exact ⟨h.1, by rw [h.2]⟩
      · cases h

/-- A frame that is complete stays the first one. -/
theorem takeFrame_append (h : takeFrame limit bytes = .ok (some (frame, rest)))
    (more : List UInt8) : takeFrame limit (bytes ++ more) = .ok (some (frame, rest ++ more)) := by
  unfold takeFrame at h ⊢
  split at h
  · cases h
  · rename_i length tail header
    rw [splitExact_append_right header]
    simp only at h ⊢
    split at h
    · cases h
    · rename_i fits
      rw [if_neg fits, splitExact_append_right (Except.ok.inj h)]

theorem takeFrame_append_error {e : RpcError} (h : takeFrame limit bytes = .error e)
    (more : List UInt8) : takeFrame limit (bytes ++ more) = .error e := by
  unfold takeFrame at h ⊢
  split at h
  · cases h
  · rename_i length tail header
    rw [splitExact_append_right header]
    simp only at h ⊢
    split at h
    · rename_i long
      rw [if_pos long]
      exact h
    · cases h

theorem takeFrames_of_error {e : RpcError} (h : takeFrame limit bytes = .error e) :
    takeFrames limit bytes = ([], .error e) := by
  rw [takeFrames]
  split <;> simp_all

theorem takeFrames_of_none (h : takeFrame limit bytes = .ok none) :
    takeFrames limit bytes = ([], .ok bytes) := by
  rw [takeFrames]
  split <;> simp_all

theorem takeFrames_of_some (h : takeFrame limit bytes = .ok (some (frame, rest))) :
    takeFrames limit bytes =
      (frame :: (takeFrames limit rest).1, (takeFrames limit rest).2) := by
  rw [takeFrames]
  split <;> simp_all

/-- The frames of bytes are the complete ones among the first of them, and then those that what was
left and the other bytes make up. -/
theorem takeFrames_append (limit : Nat) (bytes more : List UInt8) :
    takeFrames limit (bytes ++ more) =
      match takeFrames limit bytes with
      | (frames, .error e) => (frames, .error e)
      | (frames, .ok left) =>
        (frames ++ (takeFrames limit (left ++ more)).1, (takeFrames limit (left ++ more)).2) := by
  induction bytes using takeFrames.induct limit with
  | case1 bytes e h =>
    rw [takeFrames_of_error h, takeFrames_of_error (takeFrame_append_error h more)]
  | case2 bytes h =>
    rw [takeFrames_of_none h]
    rfl
  | case3 bytes frame rest h _ _ _ ih =>
    rw [takeFrames_of_some h, takeFrames_of_some (takeFrame_append h more), ih]
    rcases takeFrames limit rest with ⟨frames, e | left⟩
    · rfl
    · rfl

theorem takeFrame_of_left {frames : List Frame} {left : List UInt8}
    (h : takeFrames limit bytes = (frames, .ok left)) : takeFrame limit left = .ok none := by
  induction bytes using takeFrames.induct limit generalizing frames with
  | case1 bytes e he =>
    rw [takeFrames_of_error he] at h
    cases (Prod.mk.inj h).2
  | case2 bytes hn =>
    rw [takeFrames_of_none hn] at h
    rw [← Except.ok.inj (Prod.mk.inj h).2]
    exact hn
  | case3 bytes frame rest hs _ _ _ ih =>
    rw [takeFrames_of_some hs] at h
    exact ih (Prod.ext rfl (Prod.mk.inj h).2)

/-! ### Streams that are cut -/

/-- However a stream is cut, its frames and its ending are those of the whole. -/
theorem FrameReader.readAll_eq (r : FrameReader) (h : takeFrame r.limit r.buffer = .ok none)
    (pieces : List (List UInt8)) :
    r.readAll pieces =
      ((takeFrames r.limit (r.buffer ++ pieces.flatten)).1,
        (takeFrames r.limit (r.buffer ++ pieces.flatten)).2.bind fun buffer =>
          FrameReader.finish { r with buffer }) := by
  induction pieces generalizing r with
  | nil =>
    rw [List.flatten_nil, List.append_nil, takeFrames_of_none h]
    rfl
  | cons piece pieces ih =>
    rw [List.flatten_cons, ← List.append_assoc, takeFrames_append, readAll, feed]
    rcases hf : takeFrames r.limit (r.buffer ++ piece) with ⟨frames, e | left⟩
    · rfl
    · simp only [Except.map]
      rw [ih { r with buffer := left } (takeFrame_of_left hf)]

/-! ### The stream of a sender -/

theorem takeFrame_framed (small : frame.length < 256 ^ headerSize) (fits : frame.length ≤ limit)
    (rest : List UInt8) : takeFrame limit (framed frame ++ rest) = .ok (some (frame, rest)) := by
  have front := splitExact_append (header frame) (frame ++ rest)
  rw [header_length] at front
  have length : ofBigEndian (header frame) = frame.length := ofBigEndian_bigEndian small
  rw [takeFrame, framed, List.append_assoc, front]
  simp only
  rw [length, if_neg (Nat.not_lt_of_le fits), splitExact_append]

theorem takeFrames_framedAll {payloads : List Frame} (small : limit < 256 ^ headerSize)
    (fit : ∀ payload ∈ payloads, payload.length ≤ limit) {larger : Nat} (wide : limit ≤ larger) :
    takeFrames larger (framedAll payloads) = (payloads, .ok []) := by
  induction payloads with
  | nil => exact takeFrames_of_none rfl
  | cons payload payloads ih =>
    have short := fit payload List.mem_cons_self
    have first := takeFrame_framed (Nat.lt_of_le_of_lt short small) (Nat.le_trans short wide)
      (framedAll payloads)
    rw [framedAll_cons, takeFrames_of_some first,
      ih fun payload mem => fit payload (List.mem_cons_of_mem _ mem)]

/-- Frames that fit are sent whole and without an error, whatever batches they go in and however
much each write takes, and whoever reads the stream in pieces gets them all, and a clean end. -/
theorem sent_frames_arrive (payloads : List Frame) (limit : Nat) (small : limit < 256 ^ headerSize)
    (fit : ∀ payload ∈ payloads, payload.length ≤ limit) (count : Nat) (s : Sender)
    (run : Sender.Reaches { waiting := payloads } count s) :
    count ≤ payloads.length + (framedAll payloads).length ∧
      (∀ r, s.Step r → ∃ t, r = .ok t) ∧
      (¬ s.IsDone → ∃ r, s.Step r) ∧
      (s.IsDone → s.written = framedAll payloads ∧
        ∀ (larger : Nat) (pieces : List (List UInt8)), limit ≤ larger →
          pieces.flatten = s.written →
          FrameReader.readAll { limit := larger } pieces = (payloads, .ok ())) := by
  obtain ⟨holds, bound⟩ := run.holds
  refine ⟨?_, fun r step => ?_, Sender.progress, fun done => ⟨holds.written done, ?_⟩⟩
  · exact Nat.le_trans (Nat.le_add_right _ _) bound
  · obtain ⟨t, same, -⟩ := holds.step step
    exact ⟨t, same⟩
  · intro larger pieces wide cut
    rw [FrameReader.readAll_eq _ rfl, cut, holds.written done, List.nil_append,
      takeFrames_framedAll small fit wide]
    rfl

/-- A write stops next to an empty frame, and the next one takes the rest. -/
theorem sent_frames_arrive_past_empty_frame :
    Sender.Reaches { waiting := [[], [1, 2]] } 3
        { waiting := [], written := [0, 0, 0, 0, 0, 0, 0, 2, 1, 2] } ∧
      FrameReader.readAll { limit := 2 } [[0, 0, 0], [0, 0, 0], [0, 2, 1], [2]] =
        ([[], [1, 2]], .ok ()) := by
  have batch : Sender.Step { waiting := [[], [1, 2]] } _ :=
    .batch 2 rfl (by decide) (by decide) (by decide)
  have first : Sender.Step { waiting := [], writer := .load [[], [1, 2]] } _ :=
    .write 4 _ rfl (fun _ => by decide) (by decide)
  have second : Sender.Step
      { waiting := [], writer := .writing [[0, 0, 0, 2], [1, 2]], written := [0, 0, 0, 0] } _ :=
    .write 6 _ rfl (fun _ => by decide) (by decide)
  have run : Sender.Reaches { waiting := [[], [1, 2]] } 3
      { waiting := [], written := [0, 0, 0, 0, 0, 0, 0, 2, 1, 2] } :=
    .step (.step (.step .refl batch) first) second
  obtain ⟨-, -, -, done⟩ := sent_frames_arrive [[], [1, 2]] 2 (by decide) (by decide) 3 _ run
  exact ⟨run, (done ⟨rfl, rfl⟩).2 2 _ (Nat.le_refl 2) rfl⟩

end DuplexRpc.ByteStream

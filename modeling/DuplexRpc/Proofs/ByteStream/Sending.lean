import DuplexRpc.ByteStream.Writing

/-! The loop that writes frames, as a machine whose steps the stream decides: how many frames a batch
takes, and how many bytes a write takes. It loses no byte, and what it offers is never empty, so that
a write that takes nothing is never its own fault. -/

namespace DuplexRpc.ByteStream

/-- A sender: the frames that wait, the loop that writes, and the bytes that went out. -/
structure Sender where
  waiting : List Frame
  writer : FrameWriter := .idle
  written : List UInt8 := []

def FrameWriter.pending : FrameWriter → List UInt8
  | .idle => []
  | .writing slices => slices.flatten

namespace Sender

def IsDone (s : Sender) : Prop :=
  s.waiting = [] ∧ s.writer = .idle

/-- The bytes that a sender has still to write. -/
def remaining (s : Sender) : List UInt8 :=
  s.writer.pending ++ framedAll s.waiting

/-- A step of a sender. A write may take nothing only where nothing is offered. -/
inductive Step (s : Sender) : Except RpcError Sender → Prop where
  | batch (count : Nat) (idle : s.writer = .idle) (some : 0 < count) (few : count ≤ batchLimit)
      (there : count ≤ s.waiting.length) :
      Step s (.ok { s with
        waiting := s.waiting.drop count, writer := .load (s.waiting.take count) })
  | write (count : Nat) (slices : List (List UInt8)) (busy : s.writer = .writing slices)
      (some : slices.flatten ≠ [] → 0 < count) (offered : count ≤ slices.flatten.length) :
      Step s ((FrameWriter.wrote count slices).map fun writer =>
        { s with writer, written := s.written ++ slices.flatten.take count })

/-- A sender gets to another one in a number of steps. -/
inductive Reaches (s : Sender) : Nat → Sender → Prop where
  | refl : Reaches s 0 s
  | step {n : Nat} {t u : Sender} (before : Reaches s n t) (last : Step t (.ok u)) :
      Reaches s (n + 1) u

end Sender

/-! ### Slices -/

theorem framedAll_append (frames more : List Frame) :
    framedAll (frames ++ more) = framedAll frames ++ framedAll more :=
  List.flatMap_append

theorem framedAll_cons (frame : Frame) (frames : List Frame) :
    framedAll (frame :: frames) = framed frame ++ framedAll frames :=
  List.flatMap_cons

theorem slices_cons (frame : Frame) (frames : List Frame) :
    slices (frame :: frames) = header frame :: frame :: slices frames := rfl

theorem header_length (frame : Frame) : (header frame).length = headerSize :=
  Bytes.bigEndian_length headerSize frame.length

theorem flatten_slices (frames : List Frame) : (slices frames).flatten = framedAll frames := by
  induction frames with
  | nil => rfl
  | cons frame frames ih =>
    rw [slices_cons, List.flatten_cons, List.flatten_cons, ih, framedAll_cons, framed,
      List.append_assoc]

theorem flatten_advance (n : Nat) (slices : List (List UInt8)) :
    (advance n slices).flatten = slices.flatten.drop n := by
  induction slices generalizing n with
  | nil => simp [advance]
  | cons slice rest ih =>
    rw [advance, List.flatten_cons]
    split
    · rename_i used
      rw [ih, List.drop_append, List.drop_eq_nil_of_le used, List.nil_append]
    · rename_i left
      rw [List.flatten_cons, List.drop_append_of_le_length (Nat.le_of_lt (Nat.lt_of_not_le left))]

/-- Empty slices at the front are dropped with the slice before them: if a slice is left then a byte
is. -/
theorem advance_eq_nil {n : Nat} {slices : List (List UInt8)}
    (h : (advance n slices).flatten = []) : advance n slices = [] := by
  induction slices generalizing n with
  | nil => rfl
  | cons slice rest ih =>
    rw [advance] at h ⊢
    split at h
    · rename_i used
      rw [if_pos used]
      exact ih h
    · rename_i left
      rw [List.flatten_cons, List.append_eq_nil_iff, List.drop_eq_nil_iff] at h
      exact absurd h.1 left

/-- The only error of a write is that it took nothing. -/
theorem FrameWriter.wrote_of_pos {n : Nat} (slices : List (List UInt8)) (h : 0 < n) :
    ∃ w, FrameWriter.wrote n slices = .ok w ∧ w.pending = slices.flatten.drop n ∧
      (w = .idle ∨ w.pending ≠ []) := by
  rw [← flatten_advance]
  rw [FrameWriter.wrote, if_neg (Nat.ne_of_gt h)]
  split
  · rename_i done
    exact ⟨.idle, rfl, by rw [done]; rfl, Or.inl rfl⟩
  · rename_i left
    refine ⟨.writing (advance n slices), rfl, rfl, Or.inr fun empty => ?_⟩
    exact left (advance_eq_nil empty)

/-! ### Runs of a sender -/

namespace Sender

/-- The invariant of a sender of payloads: no byte is lost or moved, and a writer that is at work
has something to offer. -/
structure Holds (payloads : List Frame) (s : Sender) : Prop where
  bytes : s.written ++ s.remaining = framedAll payloads
  offers : s.writer = .idle ∨ s.writer.pending ≠ []

variable {payloads : List Frame} {s : Sender}

theorem holds_start (payloads : List Frame) : Holds payloads { waiting := payloads } where
  bytes := rfl
  offers := Or.inl rfl

/-- How many steps are left at most: one for each frame that waits, one for each byte. -/
def work (s : Sender) : Nat :=
  s.waiting.length + s.remaining.length

theorem framedAll_ne_nil {frames : List Frame} (h : frames ≠ []) : framedAll frames ≠ [] := by
  cases frames with
  | nil => exact absurd rfl h
  | cons frame frames =>
    intro empty
    have length := congrArg List.length empty
    rw [framedAll_cons, framed, List.length_append, List.length_append, header_length] at length
    simp [headerSize] at length

/-- No step fails; every step keeps the invariant, and leaves less to do. -/
theorem Holds.step (h : Holds payloads s) {r : Except RpcError Sender} (hr : Step s r) :
    ∃ t, r = .ok t ∧ Holds payloads t ∧ t.work < s.work := by
  cases hr with
  | batch count idle some few there =>
    have all : framedAll (s.waiting.take count) ++ framedAll (s.waiting.drop count) =
        framedAll s.waiting := by
      rw [← framedAll_append, List.take_append_drop]
    have pending : (FrameWriter.load (s.waiting.take count)).pending =
        framedAll (s.waiting.take count) := flatten_slices _
    have same : (Sender.mk (s.waiting.drop count) (.load (s.waiting.take count))
        s.written).remaining = s.remaining := by
      rw [remaining, remaining, pending, all, idle, FrameWriter.pending, List.nil_append]
    refine ⟨_, rfl, ⟨?_, Or.inr ?_⟩, ?_⟩
    · rw [same]
      exact h.bytes
    · rw [pending]
      refine framedAll_ne_nil fun empty => ?_
      have length := congrArg List.length empty
      rw [List.length_take, Nat.min_eq_left there, List.length_nil] at length
      omega
    · rw [work, work, same, List.length_drop]
      omega
  | write count slices busy some offered =>
    have nonempty : slices.flatten ≠ [] := by
      rcases h.offers with idle | offers
      · rw [idle] at busy
        cases busy
      · rwa [busy] at offers
    obtain ⟨w, wrote, pending, left⟩ := FrameWriter.wrote_of_pos slices (some nonempty)
    refine ⟨{ s with writer := w, written := s.written ++ slices.flatten.take count }, ?_,
      ⟨?_, left⟩, ?_⟩
    · rw [wrote]
      rfl
    · have bytes := h.bytes
      rw [remaining, busy, FrameWriter.pending] at bytes
      rw [remaining, pending, List.append_assoc, ← List.append_assoc (slices.flatten.take count),
        List.take_append_drop]
      exact bytes
    · have pos := some nonempty
      show s.waiting.length + (w.pending ++ framedAll s.waiting).length < s.work
      rw [work, remaining, pending, busy, FrameWriter.pending, List.length_append,
        List.length_append, List.length_drop]
      omega

/-- A sender that is not done can take a step. -/
theorem progress (h : ¬ s.IsDone) : ∃ r, Step s r := by
  cases hw : s.writer with
  | idle =>
    have waits : s.waiting ≠ [] := fun empty => h ⟨empty, hw⟩
    exact ⟨_, .batch 1 hw Nat.one_pos (by decide) (List.length_pos_iff.mpr waits)⟩
  | writing slices =>
    exact ⟨_, .write slices.flatten.length slices hw List.length_pos_iff.mpr (Nat.le_refl _)⟩

theorem Reaches.holds {n : Nat} (h : Reaches { waiting := payloads } n s) :
    Holds payloads s ∧ n + s.work ≤ Sender.work { waiting := payloads } := by
  induction h with
  | refl => exact ⟨holds_start payloads, by simp⟩
  | step before last ih =>
    obtain ⟨u, same, holds, less⟩ := ih.1.step last
    cases same
    exact ⟨holds, by omega⟩

/-- A sender that is done has written its payloads. -/
theorem Holds.written (h : Holds payloads s) (done : s.IsDone) :
    s.written = framedAll payloads := by
  have bytes := h.bytes
  rwa [remaining, done.1, done.2, FrameWriter.pending, framedAll, List.flatMap_nil,
    List.append_nil, List.append_nil] at bytes

end Sender

end DuplexRpc.ByteStream

import DuplexRpc.Proofs.Closing.Traffic
import DuplexRpc.Proofs.Codec
import DuplexRpc.Proofs.Network.Conservation

/-! Two endpoints part. Once nobody holds one of them and nothing can go on, the other is over as
well: over queues it finds that no more frames are posted, over a stream that no more bytes are
written. Over queues it handles all that was posted before. -/

namespace DuplexRpc

open ByteStream

namespace Network

variable {net : Network} {side : Side} {n : Node}

/-! ### Loops that cannot go on -/

theorem ableAt_of_idle (idle : net.able = []) (here : net.node? side = some n) :
    net.ableAt side n = [] := by
  rw [able, List.append_eq_nil_iff] at idle
  cases side with
  | a =>
    obtain rfl : net.a = n := Option.some.inj here
    exact idle.1
  | b =>
    have second := idle.2
    rw [show net.b = some n from here] at second
    exact second

theorem stuck_of_idle (idle : net.able = []) (here : net.node? side = some n) :
    net.canReceive side n = false ∧ net.canWrite side n = false ∧ net.canRead side n = false := by
  have none := ableAt_of_idle idle here
  simp only [ableAt, List.append_eq_nil_iff, ite_eq_right_iff, List.cons_ne_nil, imp_false,
    Bool.not_eq_true] at none
  exact ⟨none.1.1.1.1.2, none.1.1.1.2, none.1.1.2⟩

/-- The loops of a stream do not go on being stuck once they are asked to stop. -/
theorem stream_of_stopped (idle : net.able = []) (here : net.node? side = some n)
    (stopped : n.isStopped = true) : n.writer = none ∧ n.reader = none := by
  obtain ⟨-, write, read⟩ := stuck_of_idle idle here
  constructor
  · cases writer : n.writer with
    | none => rfl
    | some w => cases w <;> simp [canWrite, writer, stopped] at write
  · cases reader : n.reader with
    | none => rfl
    | some r => simp [canRead, reader, stopped] at read

/-- A pipe that is closed can always be read from. -/
theorem isOpen_read? {pipe : Pipe} (closed : pipe.writerGone = true) (faults : Faults) (before : Nat) :
    isOpen (faults.read? pipe before) = true := by
  unfold Faults.read?
  split
  · rfl
  · simp [Pipe.isClosed, closed, isOpen]

theorem reader_of_closed (idle : net.able = []) (here : net.node? side = some n) {pipe : Pipe}
    (between : net.pipeFrom? side.other = some pipe) (closed : pipe.writerGone = true) :
    n.reader = none := by
  obtain ⟨-, -, read⟩ := stuck_of_idle idle here
  cases reader : n.reader with
  | none => rfl
  | some r => simp [canRead, reader, between, isOpen_read? closed] at read

theorem receiving_of_stopped (idle : net.able = []) (here : net.node? side = some n)
    (stopped : n.isStopped = true) : n.receiving = false := by
  obtain ⟨receive, -, -⟩ := stuck_of_idle idle here
  simpa [canReceive, stopped] using receive

theorem receiving_of_over (idle : net.able = []) (here : net.node? side = some n)
    (closed : (net.inbox side).senderGone = true) : n.receiving = false := by
  obtain ⟨receive, -, -⟩ := stuck_of_idle idle here
  simpa [canReceive, closed] using receive

end Network

theorem Transport.senderGone_of_isOver {t : Transport} {codec : Codec} (carried : t.codec? = some codec)
    (past : t.isOver = true) : t.box.senderGone = true := by
  cases t with
  | recorder _ _ => cases carried
  | queue _ _ _ => exact past

namespace Scene

variable {s : Scene} {side : Side} {n m : Node}

/-- Where one side of a stream is stopped the loop of the other ends before nothing can go on. -/
theorem Holds.receiving_of_stopped (h : s.Holds) (here : s.net.node? side = some n)
    (there : s.net.node? side.other = some m) (stream : s.net.link.medium = .stream)
    (stopped : n.isStopped = true) (idle : s.net.able = []) : m.receiving = false := by
  refine Network.receiving_of_over idle there ?_
  cases link : s.net.link with
  | none | queues => rw [link] at stream; cases stream
  | stream fromA fromB =>
    -- the loops of the side that is stopped end, which closes the pipe that it wrote to; the other
    -- side reads the end of that pipe, which closes its inbox
    obtain ⟨writer, reader⟩ := Network.stream_of_stopped idle here stopped
    obtain ⟨out, -⟩ := (h side n here).unplugged
      (show n.writer.isSome = false by rw [writer]; rfl)
      (show n.reader.isSome = false by rw [reader]; rfl)
    obtain ⟨pipe, between⟩ : ∃ pipe, s.net.pipeFrom? side = some pipe :=
      Option.isSome_iff_exists.mp (by cases side <;> simp [Network.pipeFrom?, link])
    have closed : (s.net.pipeFrom? side).all (·.writerGone) = true := out
    rw [between] at closed
    have unread : m.reader = none :=
      Network.reader_of_closed idle there (by rwa [Side.other_other]) closed
    have drained := (h side.other m there).drained stream
      (show m.reader.isSome = false by rw [unread]; rfl)
    rw [Network.inbox, link, there]
    exact drained

/-- Where one side is gone the loop of the other ends before nothing can go on. -/
theorem Holds.receiving_of_parted (h : s.Holds) (here : s.net.node? side = some n)
    (there : s.net.node? side.other = some m) (joined : s.net.link.medium ≠ .none)
    (gone : n.isHeld = false) (idle : s.net.able = []) : m.receiving = false := by
  obtain ⟨stopped, posted⟩ := (h side n here).released gone
  cases link : s.net.link with
  | none => exact absurd (by rw [link]; rfl) joined
  | queues =>
    refine Network.receiving_of_over idle there ?_
    have carried := (h side n here).queued joined
    rw [Network.inbox, link, Side.other_other, here]
    exact Transport.senderGone_of_isOver carried posted
  | stream fromA fromB =>
    exact h.receiving_of_stopped here there (by rw [link]; rfl) stopped idle

/-- How two endpoints are joined. -/
inductive Joined : Network → Prop where
  | connect {a b : Setup} {net : Network} (joined : Network.connect a b = .ok net) : Joined net
  | connectStream (a b : Setup) (capacity : Nat) : Joined (.connectStream a b capacity)

theorem Joined.starts {net : Network} (joined : Joined net) : Starts net := by
  cases joined with
  | connect joined => exact .connect joined
  | connectStream a b capacity => exact .connectStream a b capacity

theorem Joined.nodes {net : Network} (joined : Joined net) (side : Side) :
    net.link.medium ≠ .none ∧
      ∃ n m, net.node? side = some n ∧ net.node? side.other = some m ∧ m.receiving = true := by
  cases joined with
  | connect joined =>
    rw [Network.connect] at joined
    split at joined
    · obtain rfl := Except.ok.inj joined
      cases side <;> exact ⟨by simp [Link.medium], _, _, rfl, rfl, rfl⟩
    · cases joined
  | connectStream a b capacity =>
    cases side <;> exact ⟨by simp [Network.connectStream, Network.freshStream, Link.medium], _, _,
      rfl, rfl, rfl⟩

/-- Over queues both sides use the same format, and nothing was posted yet. -/
theorem Joined.fresh {net : Network} (joined : Joined net) (queues : net.link.medium = .queues)
    (side : Side) : (net.inbox side).frames = [] ∧
      (net.node? side.other).map (·.endpoint.config.codec) =
        (net.node? side).map (·.endpoint.config.codec) := by
  cases joined with
  | connect joined =>
    rw [Network.connect] at joined
    split at joined
    · rename_i same
      obtain rfl := Except.ok.inj joined
      cases side with
      | a => exact ⟨rfl, congrArg some same.symm⟩
      | b => exact ⟨rfl, congrArg some same⟩
    · cases joined
  | connectStream a b capacity => cases queues

theorem Joined.fed {net : Network} (joined : Joined net) (queues : net.link.medium = .queues)
    (side : Side) : Fed { net } side := by
  obtain ⟨-, m, n, there, here, running⟩ := joined.nodes side.other
  rw [Side.other_other] at here
  refine ⟨holds_start joined.starts, queues, ⟨n, here⟩, ⟨m, there⟩, fun n' here' ended => ?_⟩
  obtain rfl := Option.some.inj (here.symm.trans here')
  rw [running] at ended
  cases ended

/-- Two endpoints of one kind, joined by queues. -/
def twins (setup : Setup) : Scene :=
  { net := { a := setup.queueNode, b := some setup.queueNode, link := .queues } }

end Scene

end DuplexRpc

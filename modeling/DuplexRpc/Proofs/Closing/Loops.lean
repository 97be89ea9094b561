import DuplexRpc.Proofs.Closing.Agents

/-! What the loops of a node come to in moves, those of a stream and the one that handles frames, and
what happens at the far end of a stream. -/

namespace DuplexRpc

open ByteStream

namespace Network

variable {net : Network} {side : Side} {held : Side → List (Nat × Id)} {n : Node}

theorem drifts_note (side : Side) (x : Note) :
    net.Drifts held (net.mapNode side (·.note x)) held :=
  drifts_mapNode_same side fun _ => rfl

theorem drifts_endSentinel (side : Side) :
    net.Drifts held (net.mapNode side Node.endSentinel) held :=
  drifts_mapNode_same side fun _ => rfl

/-! ### Writing -/

theorem drifts_failWriting (side : Side) (stream : net.link.medium = .stream) (e : RpcError) :
    net.Drifts held (net.failWriting side e) held :=
  (drifts_note side _).trans (drifts_endWriting side ((medium_mapNode _).trans stream))

/-- A loop that writes goes on writing. -/
theorem stance_setWriter (writing : n.writer.isSome = true) (w : FrameWriter)
    (calls : List (Nat × Id)) :
    net.stance side calls { n with writer := some w } = net.stance side calls n := by
  simp only [stance, Option.isSome_some, writing]
  rfl

theorem drifts_setWriter (here : net.node? side = some n) (writing : n.writer.isSome = true)
    (w : FrameWriter) : net.Drifts held (net.mapNode side fun n => { n with writer := some w }) held := by
  refine drifts_at here ?_
  rw [stance_setWriter writing]

theorem drifts_afterWrite (here : net.node? side = some n) (stream : net.link.medium = .stream)
    (writing : n.writer.isSome = true) (faults : Faults) (count : Nat) (slices : List (List UInt8)) :
    net.Drifts held (net.afterWrite side faults count slices) held := by
  unfold afterWrite
  split
  · exact drifts_failWriting side stream _
  · split
    · exact drifts_failWriting side stream _
    · exact drifts_setWriter here writing _
  · exact drifts_setWriter here writing _

theorem ends_of_write {faults : Faults} {pipe pipe' : Pipe} {bytes : List UInt8} {count : Nat}
    (wrote : faults.write? pipe bytes = .done (count, pipe')) :
    pipe'.readerGone = pipe.readerGone ∧ pipe'.writerGone = pipe.writerGone := by
  unfold Faults.write? at wrote
  split at wrote
  · cases wrote
  · cases wrote
    exact ⟨rfl, rfl⟩
  · split at wrote
    · cases wrote
    · simp only at wrote
      split at wrote
      · cases wrote
      · cases wrote
        exact ⟨rfl, rfl⟩

theorem drifts_stepWriting {w : FrameWriter} (here : net.node? side = some n)
    (stream : net.link.medium = .stream) (writing : n.writer = some w) (heeds : Bool) :
    net.Drifts held (net.stepWriting side n w heeds) held := by
  have running : n.writer.isSome = true := by rw [writing]; rfl
  unfold stepWriting
  split
  · exact drifts_endWriting side stream
  · split
    · simp only
      split
      · split
        · exact (drifts_closeWriter side).trans
            (drifts_endWriting side ((medium_mapPipeFrom _).trans stream))
        · exact .refl net held
      · refine drifts_at here ?_
        show (net.stance side (held side) n).Moves
          { net.stance side (held side) { n with writer := some _ } with
            transport := n.endpoint.transport.mapBox fun box =>
              { box with frames := box.frames.drop batchLimit } }
        rw [stance_setWriter running]
        exact .single (.unload stream fun _ => rfl)
    · split
      · exact .refl net held
      · rename_i pipe between
        split
        · exact .refl net held
        · exact drifts_failWriting side stream _
        · rename_i count pipe' wrote
          refine (drifts_bytes side fun p hp => ?_).trans (drifts_afterWrite
            ((node?_mapPipeFrom _ side).trans here) ((medium_mapPipeFrom _).trans stream) running _ _ _)
          obtain rfl : pipe = p := Option.some.inj (between.symm.trans hp)
          exact ends_of_write wrote

/-! ### Reading -/

theorem drifts_finishReading (side : Side) (ending : Except RpcError Unit) :
    net.Drifts held (net.finishReading side ending) held :=
  (drifts_note side _).trans (drifts_endReading side)

theorem ends_of_read {faults : Faults} {pipe pipe' : Pipe} {before : Nat} {bytes : List UInt8}
    (read : faults.read? pipe before = .done (bytes, pipe')) :
    pipe'.readerGone = pipe.readerGone ∧ pipe'.writerGone = pipe.writerGone := by
  unfold Faults.read? at read
  split at read
  · cases read
  · simp only at read
    split at read
    · cases read
    · cases read
      exact ⟨rfl, rfl⟩

/-- A loop that reads goes on reading. -/
theorem stance_setReader (reading : n.reader.isSome = true) (r : FrameReader × Nat)
    (calls : List (Nat × Id)) :
    net.stance side calls { n with reader := some r } = net.stance side calls n := by
  simp only [stance, Option.isSome_some, reading]
  rfl

theorem reader_receiveFrames (n : Node) (frames : List Frame) :
    (n.receiveFrames frames).reader = n.reader := by
  unfold Node.receiveFrames
  split <;> rfl

theorem drifts_receiveFrames (side : Side) (frames : List Frame) :
    net.Drifts held (net.mapNode side (·.receiveFrames frames)) held := by
  refine drifts_mapNode_same side fun n => ?_
  unfold Node.receiveFrames
  split <;> rfl

theorem drifts_afterRead (here : net.node? side = some n) (reading : n.reader.isSome = true)
    (r : FrameReader) (before : Nat) (piece : List UInt8) :
    net.Drifts held (net.afterRead side r before piece) held := by
  unfold afterRead
  split
  · exact drifts_finishReading side _
  · simp only
    split
    · exact drifts_finishReading side _
    · refine (drifts_receiveFrames side (r.feed piece).1).trans ?_
      split
      · exact drifts_finishReading side _
      · refine drifts_at (n := n.receiveFrames (r.feed piece).1)
          (by rw [node?_mapNode_self, here]; rfl) ?_
        rw [stance_setReader (reader_receiveFrames n _ ▸ reading)]

theorem drifts_stepReading {r : FrameReader} {before : Nat} (here : net.node? side = some n)
    (reading : n.reader = some (r, before)) (heeds : Bool) :
    net.Drifts held (net.stepReading side n r before heeds) held := by
  have running : n.reader.isSome = true := by rw [reading]; rfl
  unfold stepReading
  split
  · exact drifts_endReading side
  · split
    · exact .refl net held
    · rename_i pipe between
      split
      · exact .refl net held
      · exact drifts_finishReading side _
      · rename_i piece pipe' read
        refine (drifts_bytes side.other fun p hp => ?_).trans (drifts_afterRead
          ((node?_mapPipeFrom _ side).trans here) running _ _ _)
        obtain rfl : pipe = p := Option.some.inj (between.symm.trans hp)
        exact ends_of_read read

/-! ### Handling frames -/

/-- Every node turns while the loops for frames of some sides go on, and callers hold other calls. -/
def Turns (net : Network) (held : Side → List (Nat × Id)) (loop : Side → Prop) (net' : Network)
    (held' : Side → List (Nat × Id)) : Prop :=
  net.Nodewise net' fun side n n' => (net.stance side (held side) n).Turn (loop side.other)
    (loop side) (net'.stance side (held' side) n')

/-- Frames are taken for a side from the queue of the other one. -/
def Drains (net : Network) (taker : Side) (net' : Network) : Prop :=
  net.Nodewise net' fun side n n' => ∃ f, (∀ box : Mailbox, (f box).senderGone = box.senderGone) ∧
    (taker = side.other ∨ f = id) ∧
      ∀ calls, net'.stance side calls n' = (net.stance side calls n).drain f

variable {net' net'' : Network} {held' : Side → List (Nat × Id)} {loop : Side → Prop}

theorem Drifts.turns (drifts : net.Drifts held net' held') : net.Turns held loop net' held' :=
  Nodewise.mono drifts fun _ _ _ _ => .of_moves

theorem Drains.turns (drains : net.Drains side net') (turns : net'.Turns held (side = ·) net'' held') :
    net.Turns held (side = ·) net'' held' := by
  refine Nodewise.trans drains turns ?_
  rintro other n n' n'' ⟨f, keeps, taken, drained⟩ turn
  rw [drained] at turn
  exact turn.of_drain keeps taken

theorem Drains.isHeld (drains : net.Drains side net') (here : net.node? side = some n)
    (holding : n.isHeld = true) : ∀ m, net'.node? side = some m → m.isHeld = true := by
  intro m there
  obtain ⟨n', here', f, -, -, drained⟩ := Nodewise.node drains here
  obtain rfl := Option.some.inj (here'.symm.trans there)
  exact (congrArg Stance.isHeld (drained [])).trans holding

theorem drains_of_same {f : Node → Node} (side : Side)
    (same : ∀ n calls, net.stance side calls (f n) = net.stance side calls n) :
    net.Drains side (net.mapNode side f) := by
  refine nodewise_mapNode side (fun n _ => ?_) fun n _ => ?_
  · exact ⟨id, fun _ => rfl, .inr rfl, fun calls => by rw [stance_mapNode, same, Stance.drain_id]⟩
  · exact ⟨id, fun _ => rfl, .inr rfl, fun calls => by rw [stance_mapNode, Stance.drain_id]⟩

theorem drains_mapInbox (side : Side) {f : Mailbox → Mailbox}
    (keeps : ∀ box, (f box).senderGone = box.senderGone) : net.Drains side (net.mapInbox side f) := by
  unfold mapInbox
  split
  · refine nodewise_mapNode side.other (fun n _ => ?_) fun n _ => ?_
    · refine ⟨f, keeps, .inl (Side.other_other side).symm, fun calls => ?_⟩
      rw [stance_mapNode]
      rfl
    · exact ⟨id, fun _ => rfl, .inr rfl, fun calls => by rw [stance_mapNode, Stance.drain_id]⟩
  · refine drains_of_same side fun n calls => ?_
    simp only [stance, keeps]
    rfl

/-- The loop that handles frames ends. -/
theorem turns_endReceiving (side : Side) :
    net.Turns held (side = ·) (net.endReceiving side) held := by
  -- the node shuts first, then the queue is closed that it took from
  have shut : net.Nodewise (net.mapNode side Node.endReceiving) fun other n n' =>
      ∀ calls, (net.mapNode side Node.endReceiving).stance other calls n' =
        if other = side then (net.stance other calls n).shut else net.stance other calls n := by
    refine nodewise_mapNode side (fun n _ calls => ?_) fun n _ calls => ?_
    · rw [stance_mapNode, if_pos rfl]
      rfl
    · rw [stance_mapNode, if_neg side.other_ne]
  have drains := (net.mapNode side Node.endReceiving).drains_mapInbox side (f := Mailbox.close)
    fun _ => rfl
  refine Nodewise.trans shut drains ?_
  rintro other n n' n'' same ⟨f, keeps, taken, drained⟩
  rw [endReceiving, drained, same]
  split
  · rename_i here
    exact .shut keeps taken here.symm
  · exact .moves keeps taken .refl

theorem turns_stepReceiving (here : net.node? side = some n) (heeds : Bool) :
    net.Turns held (side = ·) (net.stepReceiving side n heeds) held := by
  have noted (net : Network) : net.Turns held (side = ·)
      ((net.mapNode side (·.note .receivingEnded)).endReceiving side) held :=
    (drains_of_same side (f := (·.note .receivingEnded)) fun _ _ => rfl).turns (turns_endReceiving side)
  unfold stepReceiving
  split
  · exact turns_endReceiving side
  · simp only
    split
    · rename_i frame rest _
      have popped := net.drains_mapInbox side (f := fun box => { box with frames := box.frames.drop 1 })
        fun _ => rfl
      split
      · rename_i holding
        exact popped.turns (drifts_atEndpoint (popped.isHeld here holding)
          fun v e => v.moves_handleFrame e frame).turns
      · exact popped.turns (noted _)
    · split
      · exact noted net
      · exact (Drifts.refl net held).turns

/-! ### Agents -/

theorem turns_step
    (regular : ∀ side n, net.node? side = some n → (net.stance side (held side) n).Regular)
    (agent : Agent) : net.Turns held agent.IsLoop (net.step agent) held := by
  have stays : net.Turns held agent.IsLoop net held := (Drifts.refl net held).turns
  cases agent with
  | sentinel side =>
    rw [step]
    split
    · split
      · exact (drifts_endSentinel side).turns
      · exact stays
    · exact stays
  | receiving side heeds =>
    rw [step]
    split
    · rename_i n here
      split
      · exact turns_stepReceiving here heeds
      · exact stays
    · exact stays
  | writing side heeds =>
    rw [step]
    split
    · rename_i n here
      split
      · rename_i w writing
        have stream : net.link.medium = .stream :=
          (regular side n here).stream (Option.isSome_of_eq_some writing)
        exact (drifts_stepWriting here stream writing heeds).turns
      · exact stays
    · exact stays
  | reading side heeds =>
    rw [step]
    split
    · rename_i n here
      split
      · rename_i r before reading
        exact (drifts_stepReading here reading heeds).turns
      · exact stays
    · exact stays
  | task side serial =>
    rw [step]
    split
    · rename_i n here
      split
      · rename_i t found
        exact (drifts_stepTask here (List.mem_of_find?_eq_some found) (regular side n here).serials).turns
      · exact stays
    · exact stays
  | timer side ticket =>
    rw [step]
    split
    · rename_i n here
      split
      · rename_i t found
        exact (drifts_at here (f := (·.mapEndpoint (·.expire t)))
          ((net.stance side (held side) n).moves_expire n.endpoint (regular side n here).pool
            (List.mem_of_find?_eq_some found))).turns
      · exact stays
    · exact stays

end Network

end DuplexRpc

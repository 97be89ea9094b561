import DuplexRpc.Proofs.ByteStream.Reception
import DuplexRpc.Proofs.Closing.Loops

/-! The loop of a node that reads its stream, on bytes that anyone may have sent: which frames come
into the inbox, and what is reported at the end. -/

namespace DuplexRpc

open ByteStream

namespace Network

variable {net : Network} {side : Side} {n : Node}

/-- The loop of a node takes pieces of its stream, as long as it is running. -/
def readPieces (net : Network) (side : Side) : List (List UInt8) → Network
  | [] => net
  | piece :: pieces =>
    match (net.node? side).bind Node.reader with
    | some (r, before) => (net.afterRead side r before piece).readPieces side pieces
    | none => net

/-- What is reported when a loop that reads frames ends by itself. -/
def readingNote : Except RpcError Unit → Note
  | .ok () => .readingEnded
  | .error e => .readingFailed e

/-- A loop that reads frames ended, and the frames that it read came into the inbox. -/
structure HasRead (n n' : Node) (frames : List Frame) (ending : Except RpcError Unit) : Prop where
  gone : n'.reader = none
  inbox : n'.inbox.frames = n.inbox.frames ++ frames
  closed : n'.inbox.senderGone = true
  told : n'.endpoint.notes = n.endpoint.notes ++ [readingNote ending]

theorem readPieces_of_gone (gone : (net.node? side).bind Node.reader = none)
    (pieces : List (List UInt8)) : net.readPieces side pieces = net := by
  cases pieces with
  | nil => rfl
  | cons piece pieces => rw [readPieces, gone]

theorem hasRead_finishReading (here : net.node? side = some n) (ending : Except RpcError Unit) :
    ∃ n', (net.finishReading side ending).node? side = some n' ∧ HasRead n n' [] ending := by
  have same : net.finishReading side ending =
      (net.mapNode side (·.note (readingNote ending))).endReading side := by
    cases ending <;> rfl
  refine ⟨(n.note (readingNote ending)).endReading, ?_, ⟨rfl, (List.append_nil _).symm, rfl, rfl⟩⟩
  rw [same, endReading, node?_detach, node?_mapNode_self, node?_mapNode_self, here]
  rfl

/-- Frames that came in before the others. -/
theorem HasRead.after {n' : Node} {frames more : List Frame} {ending : Except RpcError Unit}
    {reader : Option (FrameReader × Nat)} (takes : n.inbox.receiverGone = false)
    (h : HasRead { n.receiveFrames frames with reader } n' more ending) :
    HasRead n n' (frames ++ more) ending := by
  have received : n.receiveFrames frames =
      { n with inbox := { n.inbox with frames := n.inbox.frames ++ frames } } :=
    if_neg (Bool.eq_false_iff.mp takes)
  obtain ⟨gone, inbox, closed, told⟩ := h
  rw [received] at inbox told
  exact ⟨gone, inbox.trans (List.append_assoc ..), closed, told⟩

theorem inbox_of_stream (here : net.node? side = some n) (stream : net.link.medium = .stream) :
    net.inbox side = n.inbox := by
  cases link : net.link with
  | stream _ _ => simp only [inbox, link, here, Option.map_some, Option.getD_some]
  | none | queues => rw [link] at stream; cases stream

/-- What a piece comes to where someone takes the frames. -/
theorem afterRead_of_open (side : Side) (takes : (net.inbox side).receiverGone = false)
    (r : FrameReader) (before : Nat) {piece : List UInt8} (nonempty : piece ≠ []) :
    net.afterRead side r before piece =
      match r.feed piece with
      | (frames, .error e) =>
        (net.mapNode side (·.receiveFrames frames)).finishReading side (.error e)
      | (frames, .ok r) =>
        (net.mapNode side (·.receiveFrames frames)).mapNode side fun n =>
          { n with reader := some (r, before + piece.length) } := by
  rw [afterRead, if_neg fun empty => nonempty (List.isEmpty_iff.mp empty)]
  simp only [takes, Bool.false_eq_true, false_and, if_false]
  rcases r.feed piece with ⟨frames, e | r'⟩ <;> rfl

/-- The loop does with the pieces what a reader does with them. -/
theorem hasRead_readPieces (pieces : List (List UInt8)) (nonempty : ∀ piece ∈ pieces, piece ≠ [])
    {r : FrameReader} {before : Nat} (here : net.node? side = some n)
    (reading : n.reader = some (r, before)) (stream : net.link.medium = .stream)
    (takes : n.inbox.receiverGone = false) :
    ∃ n', (net.readPieces side (pieces ++ [[]])).node? side = some n' ∧
      HasRead n n' (r.readAll pieces).1 (r.readAll pieces).2 := by
  induction pieces generalizing net n r before with
  | nil =>
    obtain ⟨n', there, read⟩ := hasRead_finishReading here r.finish
    have ended : (net.readPieces side [[]]).node? side = some n' := by
      simp only [readPieces, here, Option.bind_some, reading]
      exact there
    exact ⟨n', ended, read⟩
  | cons piece pieces ih =>
    have next : net.readPieces side (piece :: pieces ++ [[]]) =
        (net.afterRead side r before piece).readPieces side (pieces ++ [[]]) := by
      simp only [List.cons_append, readPieces, here, Option.bind_some, reading]
    rw [next, afterRead_of_open side (by rwa [inbox_of_stream here stream]) r before
      (nonempty piece List.mem_cons_self), FrameReader.readAll]
    rcases r.feed piece with ⟨frames, e | r'⟩
    · -- the stream is given up, and nothing is read after it
      have received : (net.mapNode side (·.receiveFrames frames)).node? side =
          some { n.receiveFrames frames with reader := n.reader } := by
        rw [node?_mapNode_self, here, ← reader_receiveFrames n frames]
        rfl
      obtain ⟨n', there, read⟩ := hasRead_finishReading received (.error e)
      refine ⟨n', ?_, List.append_nil frames ▸ read.after takes⟩
      rw [readPieces_of_gone (by rw [there]; exact read.gone)]
      exact there
    · have goes : ((net.mapNode side (·.receiveFrames frames)).mapNode side fun n =>
          { n with reader := some (r', before + piece.length) }).node? side =
            some { n.receiveFrames frames with reader := some (r', before + piece.length) } := by
        rw [node?_mapNode_self, node?_mapNode_self, here]
        rfl
      have open_ : ({ n.receiveFrames frames with reader := some (r', before + piece.length) } :
          Node).inbox.receiverGone = false := by
        unfold Node.receiveFrames
        split <;> exact takes
      obtain ⟨n', there, read⟩ := ih (fun piece mem => nonempty piece (List.mem_cons_of_mem _ mem))
        goes rfl ((medium_mapNode _).trans ((medium_mapNode _).trans stream)) open_
      exact ⟨n', there, read.after takes⟩

/-- There is one way to decode the bytes that someone sent, and they end in one way: well if they are
frames that a sender could have sent, and nothing else. However they are cut, the loop that reads them
ends, having taken no byte that its buffer does not have, with just those frames and that ending. So
does the loop of a node whose inbox is open. -/
theorem received_as_decoded (limit : Nat) (bytes : List UInt8) :
    ∃ (frames : List Frame) (rest : List UInt8) (ending : Except RpcError Unit),
      Decodes limit bytes frames rest ∧ EndsAs limit rest ending ∧
      (∀ frames' rest' ending', Decodes limit bytes frames' rest' → EndsAs limit rest' ending' →
        frames' = frames ∧ rest' = rest ∧ ending' = ending) ∧
      (ending = .ok () ↔ ∃ payloads, bytes = framedAll payloads ∧
        ∀ payload ∈ payloads, payload.length ≤ limit ∧ payload.length < 256 ^ headerSize) ∧
      ∀ pieces : List (List UInt8), (∀ piece ∈ pieces, piece ≠ []) → pieces.flatten = bytes →
        (∀ turns, pieces.length + bytes.length < turns →
          Receiver.run turns { reader := { limit }, pieces } = some (frames, ending)) ∧
        ∀ (net : Network) (side : Side) (n : Node) (before : Nat), net.link.medium = .stream →
          net.node? side = some n → n.reader = some ({ limit }, before) →
            n.inbox.receiverGone = false →
              ∃ n', (net.readPieces side (pieces ++ [[]])).node? side = some n' ∧
                HasRead n n' frames ending := by
  obtain ⟨rest, decodes, ends⟩ := takeFrames_decodes limit bytes
  refine ⟨_, rest, _, decodes, ends, ?_, ?_, fun pieces nonempty cut => ⟨?_, ?_⟩⟩
  · intro frames' rest' ending' decodes' ends'
    obtain ⟨rfl, rfl⟩ := decodes.unique decodes'
    exact ⟨rfl, rfl, ends.unique ends'⟩
  · constructor
    · intro well
      rw [well] at ends
      cases ends with
      | clean used =>
        subst used
        exact ⟨_, decodes_nil_iff.mp decodes⟩
    · rintro ⟨payloads, sent⟩
      obtain ⟨-, rfl⟩ := decodes.unique (decodes_nil_iff.mpr sent)
      exact (EndsAs.clean rfl).unique ends
  · intro turns enough
    have same : Receiver.remaining { reader := { limit }, pieces } = bytes := cut
    have all := Receiver.run_eq { reader := { limit }, pieces } nonempty
      (show pieces.length + (Receiver.remaining { reader := { limit }, pieces }).length < turns by
        rwa [same])
    rw [same] at all
    exact all
  · intro net side n before stream here reading takes
    obtain ⟨n', there, read⟩ := hasRead_readPieces pieces nonempty here reading stream takes
    rw [FrameReader.readAll_eq _ rfl, List.nil_append, cut] at read
    exact ⟨n', there, read⟩

/-- A stream with an empty frame, another one that is as long as may be, and the length of one that is
too long. It is cut inside of lengths and frames. -/
theorem received_as_decoded_too_long :
    let pieces : List (List UInt8) := [[0, 0, 0], [0, 0, 0], [0, 2, 7], [8, 0, 0, 0, 3], [1]]
    let setup : Setup := { config := { maxFrameSize := 2 } }
    let net := Network.attach setup 64 {}
    (∀ piece ∈ pieces, piece ≠ []) ∧
      ∃ n', (net.readPieces .a (pieces ++ [[]])).node? .a = some n' ∧
        HasRead (setup.streamNode {}) n' [[], [7, 8]] (.error (.parse "frame is too long: 3")) := by
  intro pieces setup net
  have nonempty : ∀ piece ∈ pieces, piece ≠ [] := by decide
  have long : Announces [0, 0, 0, 3, 1] 3 := ⟨[0, 0, 0, 3], [1], rfl, rfl, rfl⟩
  have decodes : Decodes 2 ([0, 0, 0, 0] ++ ([] ++ ([0, 0, 0, 2] ++ ([7, 8] ++ [0, 0, 0, 3, 1]))))
      [[], [7, 8]] [0, 0, 0, 3, 1] :=
    .frame ⟨rfl, rfl, by decide⟩ (.frame ⟨rfl, rfl, by decide⟩ (.of_tooLong long (by decide)))
  have text : s!"frame is too long: {3}" = "frame is too long: 3" := by decide +kernel
  have ends : EndsAs 2 [0, 0, 0, 3, 1] (.error (.parse "frame is too long: 3")) :=
    text ▸ .tooLong long (by decide)
  obtain ⟨frames, rest, ending, -, -, unique, -, cut⟩ := received_as_decoded 2 pieces.flatten
  obtain ⟨rfl, rfl, rfl⟩ := unique _ _ _ decodes ends
  exact ⟨nonempty, (cut pieces nonempty rfl).2 net .a (setup.streamNode {}) 0 rfl rfl rfl rfl⟩

end Network

end DuplexRpc

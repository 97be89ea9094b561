import DuplexRpc.Proofs.ByteStream.Delivery
import Mathlib.Data.List.Induction

/-! The frames in bytes that anyone may have sent, and what is left of them, without a word of buffers
or pieces. There is one way alone to read bytes so, and it is how frames are taken. -/

namespace DuplexRpc.ByteStream

open Bytes

/-- The length of a frame that is short enough, and the frame. -/
structure IsFrame (limit : Nat) (length : List UInt8) (frame : Frame) : Prop where
  size : length.length = headerSize
  states : ofBigEndian length = frame.length
  fits : frame.length ≤ limit

/-- The frames at the front of bytes, and the bytes that are left where no other one follows. -/
inductive Decodes (limit : Nat) : List UInt8 → List Frame → List UInt8 → Prop where
  | stop {rest : List UInt8}
      (last : ∀ length frame more, IsFrame limit length frame → rest ≠ length ++ (frame ++ more)) :
      Decodes limit rest [] rest
  | frame {length bytes rest : List UInt8} {frame : Frame} {frames : List Frame}
      (first : IsFrame limit length frame) (others : Decodes limit bytes frames rest) :
      Decodes limit (length ++ (frame ++ bytes)) (frame :: frames) rest

/-- The bytes begin with the whole length of a frame, which may be too long or not be there. -/
def Announces (bytes : List UInt8) (n : Nat) : Prop :=
  ∃ length more, bytes = length ++ more ∧ length.length = headerSize ∧ ofBigEndian length = n

/-- How a stream ends of which these bytes are left. -/
inductive EndsAs (limit : Nat) (rest : List UInt8) : Except RpcError Unit → Prop where
  | clean (used : rest = []) : EndsAs limit rest (.ok ())
  | tooLong {n : Nat} (announced : Announces rest n) (long : limit < n) :
      EndsAs limit rest (.error (.parse s!"frame is too long: {n}"))
  | inside (left : rest ≠ []) (short : ∀ n, Announces rest n → n ≤ limit) :
      EndsAs limit rest (.error (.parse s!"eof inside a frame, {rest.length} bytes pending"))

variable {limit n : Nat} {bytes frame front rest : List UInt8}

/-! ### Lengths -/

theorem ofBigEndian_lt (bytes : List UInt8) : ofBigEndian bytes < 256 ^ bytes.length := by
  induction bytes using List.reverseRecOn with
  | nil => exact Nat.one_pos
  | append_singleton front b ih =>
    have byte := b.toNat_lt
    rw [ofBigEndian_append, List.length_append, List.length_singleton, Nat.pow_succ]
    omega

/-- Bytes are those of the number that they make up. -/
theorem bigEndian_ofBigEndian (bytes : List UInt8) :
    bigEndian bytes.length (ofBigEndian bytes) = bytes := by
  induction bytes using List.reverseRecOn with
  | nil => rfl
  | append_singleton front b ih =>
    have byte := b.toNat_lt
    have high : (ofBigEndian front * 256 + b.toNat) / 256 = ofBigEndian front := by omega
    have low : UInt8.ofNat (ofBigEndian front * 256 + b.toNat) = b := by
      refine UInt8.toNat_inj.mp ?_
      rw [UInt8.toNat_ofNat']
      omega
    rw [List.length_append, List.length_singleton, bigEndian, ofBigEndian_append, high, low, ih]

/-- The only length of a frame is the one that it is sent with. -/
theorem IsFrame.eq_header {length : List UInt8} (h : IsFrame limit length frame) :
    length = header frame := by
  have bytes := bigEndian_ofBigEndian length
  rw [h.size, h.states] at bytes
  exact bytes.symm

theorem IsFrame.small {length : List UInt8} (h : IsFrame limit length frame) :
    frame.length < 256 ^ headerSize := by
  have small := ofBigEndian_lt length
  rwa [h.size, h.states] at small

theorem isFrame_header (fits : frame.length ≤ limit) (small : frame.length < 256 ^ headerSize) :
    IsFrame limit (header frame) frame :=
  ⟨header_length frame, ofBigEndian_bigEndian small, fits⟩

/-! ### Taking bytes from the front -/

theorem splitExact_eq_some (h : splitExact n bytes = some (front, rest)) :
    bytes = front ++ rest ∧ front.length = n := by
  induction n generalizing bytes front with
  | zero =>
    simp only [splitExact, Option.some.injEq, Prod.mk.injEq] at h
    obtain ⟨rfl, rfl⟩ := h
    exact ⟨rfl, rfl⟩
  | succ n ih =>
    cases bytes with
    | nil => cases h
    | cons b bytes =>
      rw [splitExact] at h
      split at h
      · rename_i found
        cases h
        obtain ⟨rfl, length⟩ := ih found
        exact ⟨rfl, congrArg (· + 1) length⟩
      · cases h

theorem splitExact_of_length (h : front.length = n) :
    splitExact n (front ++ rest) = some (front, rest) :=
  h ▸ splitExact_append front rest

theorem splitExact_eq_none_iff : splitExact n bytes = none ↔ bytes.length < n := by
  constructor
  · refine fun h => Nat.lt_of_not_le fun le => ?_
    have found : splitExact n (bytes.take n ++ bytes.drop n) = some (bytes.take n, bytes.drop n) :=
      splitExact_of_length (List.length_take_of_le le)
    rw [List.take_append_drop, h] at found
    cases found
  · intro short
    cases h : splitExact n bytes with
    | none => rfl
    | some parts =>
      have length := splitExact_length h
      omega

theorem Announces.unique {m : Nat} (h : Announces bytes n) (h' : Announces bytes m) : n = m := by
  obtain ⟨length, more, rfl, size, rfl⟩ := h
  obtain ⟨length', more', same, size', rfl⟩ := h'
  rw [(List.append_inj same (size.trans size'.symm)).1]

theorem Announces.ne_nil (h : Announces bytes n) : bytes ≠ [] := by
  obtain ⟨length, more, rfl, size, -⟩ := h
  intro empty
  obtain ⟨rfl, -⟩ := List.append_eq_nil_iff.mp empty
  cases size

/-! ### Taking a frame -/

/-- A frame is taken where there is one. -/
theorem takeFrame_of_isFrame {length : List UInt8} (h : IsFrame limit length frame)
    (rest : List UInt8) : takeFrame limit (length ++ (frame ++ rest)) = .ok (some (frame, rest)) := by
  rw [takeFrame, splitExact_of_length h.size]
  simp only
  rw [h.states, if_neg (Nat.not_lt_of_le h.fits), splitExact_append]

/-- What is taken is a frame. -/
theorem isFrame_of_takeFrame (h : takeFrame limit bytes = .ok (some (frame, rest))) :
    ∃ length, IsFrame limit length frame ∧ bytes = length ++ (frame ++ rest) := by
  unfold takeFrame at h
  split at h
  · cases h
  · rename_i length tail header
    obtain ⟨rfl, size⟩ := splitExact_eq_some header
    simp only at h
    split at h
    · cases h
    · rename_i fits
      obtain ⟨rfl, states⟩ := splitExact_eq_some (Except.ok.inj h)
      exact ⟨length, ⟨size, states.symm, states ▸ Nat.le_of_not_lt fits⟩, rfl⟩

/-- Taking a frame fails only where one is announced that is too long. -/
theorem announces_of_takeFrame {e : RpcError} (h : takeFrame limit bytes = .error e) :
    ∃ n, Announces bytes n ∧ limit < n ∧ e = .parse s!"frame is too long: {n}" := by
  unfold takeFrame at h
  split at h
  · cases h
  · rename_i length tail header
    obtain ⟨rfl, size⟩ := splitExact_eq_some header
    simp only at h
    split at h
    · rename_i long
      exact ⟨_, ⟨length, tail, rfl, size, rfl⟩, long, (Except.error.inj h).symm⟩
    · cases h

/-- Where more bytes are needed the announced frame, if any, is short enough. -/
theorem le_of_takeFrame_none (h : takeFrame limit bytes = .ok none) (announced : Announces bytes n) :
    n ≤ limit := by
  obtain ⟨length, more, rfl, size, rfl⟩ := announced
  rw [takeFrame, splitExact_of_length size] at h
  simp only at h
  split at h
  · cases h
  · rename_i fits
    exact Nat.le_of_not_lt fits

theorem Decodes.of_takeFrame_none (h : takeFrame limit bytes = .ok none) :
    Decodes limit bytes [] bytes := by
  refine .stop fun length frame more isFrame same => ?_
  rw [same, takeFrame_of_isFrame isFrame more] at h
  cases h

/-- Nothing is read past a length that is too long. -/
theorem Decodes.of_tooLong (announced : Announces bytes n) (long : limit < n) :
    Decodes limit bytes [] bytes := by
  refine .stop fun length frame more isFrame same => ?_
  have other : Announces bytes frame.length := ⟨length, frame ++ more, same, isFrame.size, isFrame.states⟩
  have fits := isFrame.fits
  rw [← announced.unique other] at fits
  omega

/-! ### Reading all -/

/-- There is one way to decode bytes. -/
theorem Decodes.unique {frames frames' : List Frame} {rest' : List UInt8}
    (h : Decodes limit bytes frames rest) (h' : Decodes limit bytes frames' rest') :
    frames' = frames ∧ rest' = rest := by
  induction h generalizing frames' with
  | stop last =>
    cases h' with
    | stop _ => exact ⟨rfl, rfl⟩
    | frame first _ => exact absurd rfl (last _ _ _ first)
  | @frame length bytes rest frame frames first _ ih =>
    generalize all : length ++ (frame ++ bytes) = whole at h'
    cases h' with
    | stop last => exact absurd all.symm (last _ _ _ first)
    | @frame length' bytes' _ frame' frames' first' others' =>
      -- both are what is taken from the front
      have taken := takeFrame_of_isFrame first bytes
      rw [all, takeFrame_of_isFrame first' bytes'] at taken
      cases taken
      obtain ⟨rfl, rfl⟩ := ih others'
      exact ⟨rfl, rfl⟩

/-- What is left tells how the stream ends. -/
theorem EndsAs.unique {ending ending' : Except RpcError Unit} (h : EndsAs limit rest ending)
    (h' : EndsAs limit rest ending') : ending' = ending := by
  cases h with
  | clean used =>
    cases h' with
    | clean _ => rfl
    | tooLong announced _ => exact absurd used announced.ne_nil
    | inside left _ => exact absurd used left
  | tooLong announced long =>
    cases h' with
    | clean used => exact absurd used announced.ne_nil
    | tooLong announced' _ => rw [announced.unique announced']
    | inside _ short => exact absurd (short _ announced) (Nat.not_le_of_lt long)
  | inside left short =>
    cases h' with
    | clean used => exact absurd used left
    | tooLong announced long => exact absurd (short _ announced) (Nat.not_le_of_lt long)
    | inside _ _ => rfl

/-- Nothing is left of the frames that a sender sends one after the other, and of nothing else. -/
theorem decodes_nil_iff {frames : List Frame} : Decodes limit bytes frames [] ↔
    bytes = framedAll frames ∧
      ∀ frame ∈ frames, frame.length ≤ limit ∧ frame.length < 256 ^ headerSize := by
  constructor
  · intro h
    generalize nothing : ([] : List UInt8) = rest at h
    induction h with
    | stop _ => exact ⟨nothing.symm, nofun⟩
    | frame first _ ih =>
      obtain ⟨rfl, all⟩ := ih nothing
      refine ⟨?_, List.forall_mem_cons.mpr ⟨⟨first.fits, first.small⟩, all⟩⟩
      rw [framedAll_cons, framed, first.eq_header, List.append_assoc]
  · rintro ⟨rfl, all⟩
    induction frames with
    | nil =>
      refine .stop fun length frame more first same => ?_
      obtain ⟨rfl, -⟩ := List.append_eq_nil_iff.mp same.symm
      cases first.size
    | cons frame frames ih =>
      obtain ⟨⟨fits, small⟩, all⟩ := List.forall_mem_cons.mp all
      rw [framedAll_cons, framed, List.append_assoc]
      exact .frame (isFrame_header fits small) (ih all)

/-- Taking all frames decodes the bytes. How the stream ends, if nothing follows, is told by what is
left. -/
theorem takeFrames_decodes (limit : Nat) (bytes : List UInt8) :
    ∃ rest, Decodes limit bytes (takeFrames limit bytes).1 rest ∧
      EndsAs limit rest ((takeFrames limit bytes).2.bind fun buffer =>
        FrameReader.finish { limit, buffer }) := by
  induction bytes using takeFrames.induct limit with
  | case1 bytes e refused =>
    obtain ⟨n, announced, long, rfl⟩ := announces_of_takeFrame refused
    rw [takeFrames_of_error refused]
    exact ⟨bytes, .of_tooLong announced long, .tooLong announced long⟩
  | case2 bytes none =>
    rw [takeFrames_of_none none]
    refine ⟨bytes, .of_takeFrame_none none, ?_⟩
    show EndsAs limit bytes (FrameReader.finish { limit, buffer := bytes })
    rw [FrameReader.finish]
    split
    · rename_i empty
      exact .clean (List.isEmpty_iff.mp empty)
    · rename_i left
      exact .inside (fun empty => left (List.isEmpty_iff.mpr empty))
        fun n => le_of_takeFrame_none none
  | case3 bytes frame rest taken _ _ _ ih =>
    obtain ⟨length, first, rfl⟩ := isFrame_of_takeFrame taken
    obtain ⟨left, decodes, ends⟩ := ih
    rw [takeFrames_of_some taken]
    exact ⟨left, .frame first decodes, ends⟩

end DuplexRpc.ByteStream

import DuplexRpc.Codec
import DuplexRpc.Proofs.Json.Utf8
import DuplexRpc.Proofs.Message.Classification

/-! A text is the same message whichever way it comes in: as a text, as the bytes of a frame, or decoded
as any other type. What is rejected is rejected as an error of parsing. Blank texts and blank frames are
rejected before they are read, and could not be read as messages. -/

namespace DuplexRpc

open Text

/-! ### Blank input -/

namespace Json

/-- A value may start with this byte. -/
def opensValue (b : UInt8) : Bool :=
  b == ascii 'n' || b == ascii 't' || b == ascii 'f' || b == ascii '-' || isDigit b ||
    b == ascii '"' || b == ascii '[' || b == ascii '\x7b'

variable {bytes rest : List UInt8}

theorem mem_of_skipSpace {b : UInt8} (h : skipSpace bytes = b :: rest) : b ∈ bytes := by
  induction bytes with
  | nil => cases h
  | cons c bytes ih =>
    rw [skipSpace] at h
    split at h
    · exact List.mem_cons_of_mem c (ih h)
    · rw [(List.cons.inj h).1]
      exact List.mem_cons_self

/-- Bytes none of which starts a value are not read as one. -/
theorem exists_fault_of_not_opens (h : ∀ b ∈ bytes, opensValue b = false) :
    ∃ e, parse bytes = .error e := by
  rw [parse, readValue]
  cases start : skipSpace bytes with
  | nil => exact ⟨_, rfl⟩
  | cons b rest =>
    have other := h b (mem_of_skipSpace start)
    simp only [opensValue, Bool.or_eq_false_iff, beq_eq_false_iff_ne] at other
    obtain ⟨⟨⟨⟨⟨⟨⟨null, yes⟩, no⟩, minus⟩, digit⟩, quote⟩, bracket⟩, brace⟩ := other
    simp only [if_neg null, if_neg yes, if_neg no, if_neg minus, digit, Bool.false_eq_true, if_false,
      if_neg quote, if_neg bracket, if_neg brace]
    exact ⟨_, rfl⟩

theorem opensValue_of_blank_char :
    ∀ n < 128, isBlank (Char.ofNat n) = true → opensValue (UInt8.ofNat n) = false := by
  decide

theorem opensValue_of_le : ∀ n < 256, 128 ≤ n → opensValue (UInt8.ofNat n) = false := by
  decide +kernel

theorem opensValue_of_blank_byte {b : UInt8} (h : isBlankByte b = true) : opensValue b = false := by
  simp only [isBlankByte, Bool.or_eq_true, beq_iff_eq] at h
  rcases h with (((rfl | rfl) | rfl) | rfl) | rfl <;> rfl

/-- A character of white space is one byte of ASCII, or bytes beyond ASCII alone; none of them starts a
value. -/
theorem opensValue_of_mem_encodeChar {c : Char} (h : isBlank c = true) {b : UInt8}
    (hb : b ∈ String.utf8EncodeChar c) : opensValue b = false := by
  rcases encodeChar_cases c with ⟨n, small, same⟩ | high
  · have one := congrArg List.length same
    rw [String.length_utf8EncodeChar, List.length_singleton, Char.utf8Size_eq_one_iff] at one
    have low : c.toNat < 128 := Nat.lt_succ_of_le one
    have ascii := encodeChar_ofNat c.toNat low
    rw [Char.ofNat_toNat] at ascii
    rw [ascii, List.mem_singleton] at hb
    rw [hb]
    exact opensValue_of_blank_char c.toNat low (by rwa [Char.ofNat_toNat])
  · have other := opensValue_of_le b.toNat b.toNat_lt (high b hb)
    rwa [UInt8.ofNat_toNat] at other

/-- A blank text is no JSON text. -/
theorem exists_fault_of_blank_text {text : String} (h : isBlankText text = true) :
    ∃ e, parse (utf8 text) = .error e := by
  apply exists_fault_of_not_opens
  intro b hb
  rw [← String.ofList_toList (s := text), utf8_ofList, List.mem_flatMap] at hb
  obtain ⟨c, hc, hb⟩ := hb
  exact opensValue_of_mem_encodeChar (List.all_eq_true.mp h c hc) hb

/-- A blank frame is no JSON text. -/
theorem exists_fault_of_blank_frame (h : isBlankFrame bytes = true) :
    ∃ e, parse bytes = .error e := by
  apply exists_fault_of_not_opens
  intro b hb
  exact opensValue_of_blank_byte (List.all_eq_true.mp h b hb)

end Json

/-- A blank frame starts with an integer, or with nothing at all, so no object is read from it. -/
theorem MessagePack.not_obj_of_blank_frame {bytes : List UInt8} (h : isBlankFrame bytes = true)
    (fields : List (String × Value)) : MessagePack.parse bytes ≠ .ok (.obj fields) := by
  cases bytes with
  | nil =>
    intro read
    cases read
  | cons b bytes =>
    have blank := List.all_eq_true.mp h b List.mem_cons_self
    have low : b.toNat < 0x80 := by
      simp only [isBlankByte, Bool.or_eq_true, beq_iff_eq] at blank
      rcases blank with (((rfl | rfl) | rfl) | rfl) | rfl <;> exact Nat.le_of_ble_eq_true rfl
    rw [parse, readValue, readHead, if_pos low]
    simp only
    intro read
    cases number : Number.ofInt? b.toNat <;>
      · rw [number] at read
        cases read

/-! ### Errors of parsing -/

variable {codec : Codec} {frame : List UInt8} {text : String} {e : RpcError}

theorem kind_of_mapError {ε α : Type} {r : Except ε α} {f : ε → RpcError}
    (kind : ∀ x, (f x).kind = .parseError) (h : r.mapError f = .error e) : e.kind = .parseError := by
  cases r with
  | ok x => cases h
  | error x =>
    obtain rfl := Except.error.inj h
    exact kind x

theorem Message.kind_of_parse (h : parse text = .error e) : e.kind = .parseError := by
  rw [parse] at h
  split at h
  · obtain rfl := Except.error.inj h
    rfl
  · simp only at h
    split at h
    · obtain rfl := Except.error.inj h
      rfl
    · exact kind_of_ofValue h

namespace Codec

theorem kind_of_read (h : codec.read frame = .error e) : e.kind = .parseError := by
  cases codec <;> exact kind_of_mapError (fun _ => rfl) h

theorem kind_of_decode (h : codec.decode frame = .error e) : e.kind = .parseError := by
  rw [decode, decodeValue] at h
  split at h
  · rename_i fault
    obtain rfl := Except.error.inj h
    split at fault
    · obtain rfl := Except.error.inj fault
      rfl
    · exact kind_of_read fault
  · exact Message.kind_of_ofValue h

end Codec

/-! ### Shortcuts -/

/-- A message is an object. -/
theorem Message.obj_of_ofValue {v : Value} {m : Message} (h : ofValue v = .ok m) :
    ∃ fields, v = .obj fields := by
  cases v with
  | obj fields => exact ⟨fields, rfl⟩
  | null | bool _ | num _ | str _ | arr _ => cases h

/-- No message is read from a blank frame. -/
theorem Codec.toOption_of_blank (h : isBlankFrame frame = true) :
    ((codec.read frame).bind Message.ofValue).toOption = none := by
  cases codec with
  | json =>
    obtain ⟨fault, found⟩ := Json.exists_fault_of_blank_frame h
    rw [read, found]
    rfl
  | messagePack =>
    rw [read]
    cases found : MessagePack.parse frame with
    | error fault => rfl
    | ok v =>
      cases read : Message.ofValue v with
      | error e =>
        show (Message.ofValue v).toOption = none
        rw [read]
        rfl
      | ok m =>
        obtain ⟨fields, rfl⟩ := Message.obj_of_ofValue read
        exact absurd found (MessagePack.not_obj_of_blank_frame h fields)

/-- Blank frames apart, a frame is decoded as the value that is read; and nothing is lost with them. -/
theorem Codec.decode_eq_read (codec : Codec) (frame : List UInt8) :
    (codec.decode frame).toOption = ((codec.read frame).bind Message.ofValue).toOption := by
  rw [decode, decodeValue]
  by_cases blank : isBlankFrame frame = true
  · rw [if_pos blank, Codec.toOption_of_blank blank]
    rfl
  · rw [if_neg blank]
    cases codec.read frame <;> rfl

/-- Blank texts apart, a text is parsed as the value that is read; and nothing is lost with them. -/
theorem Message.parse_eq_read (text : String) :
    (parse text).toOption = ((Codec.json.read (utf8 text)).bind ofValue).toOption := by
  rw [parse]
  by_cases blank : isBlankText text = true
  · obtain ⟨fault, found⟩ := Json.exists_fault_of_blank_text blank
    rw [if_pos blank, Codec.read, found]
    rfl
  · rw [if_neg blank, Codec.read]
    simp only
    cases Json.parse (utf8 text) <;> rfl

/-- A message that is decoded as any other type is the value that is read. The value is looked at
before the end of the text is, so the two can differ in what they find fault with. -/
theorem Message.decoder_parse_eq_read (bytes : List UInt8) :
    (decoder.parse bytes).toOption = ((Codec.json.read bytes).bind ofValue).toOption := by
  rw [Decoder.parse, Codec.read, Json.parse]
  simp only [decoder, Decoder.buffered]
  cases found : Json.readValue Json.maxDepth bytes with
  | error fault => rfl
  | ok r =>
    obtain ⟨v, rest⟩ := r
    simp only [Decoder.lift, Except.mapError, bind, Except.bind, ofValue]
    cases read : ofValue? v <;> cases ended : Json.readEnd rest <;> simp only [read, ended] <;> rfl

/-- A text is accepted by all entrances or by none, and it is the same message to those that accept it.
Whatever is rejected as a text or as a frame is rejected with an error of parsing. What is rejected as
blank could not be read as a message. -/
theorem entrances_agree :
    (∀ text, (Message.parse text).toOption = (Codec.json.decode (utf8 text)).toOption ∧
      (Message.decoder.parse (utf8 text)).toOption = (Codec.json.decode (utf8 text)).toOption) ∧
    (∀ (codec : Codec) frame e, codec.decode frame = .error e → e.kind = .parseError) ∧
    (∀ text e, Message.parse text = .error e → e.kind = .parseError) ∧
    (∀ (codec : Codec) frame,
      (codec.decode frame).toOption = ((codec.read frame).bind Message.ofValue).toOption) ∧
    ∀ text, (Message.parse text).toOption =
      ((Codec.json.read (utf8 text)).bind Message.ofValue).toOption := by
  refine ⟨?_, fun _ _ _ => Codec.kind_of_decode, fun _ _ => Message.kind_of_parse,
    Codec.decode_eq_read, Message.parse_eq_read⟩
  intro text
  rw [Codec.decode_eq_read]
  exact ⟨Message.parse_eq_read text, Message.decoder_parse_eq_read (utf8 text)⟩

/-- A frame of blanks and integers that are blanks in ASCII, and a text of blanks that are none in
JSON. -/
theorem entrances_agree_on_blanks :
    (∃ e, Codec.messagePack.decode [9, 10] = .error e ∧ e.kind = .parseError) ∧
      ∃ e, Message.parse "\u000b\u00a0" = .error e ∧ e.kind = .parseError :=
  ⟨⟨_, rfl, entrances_agree.2.1 .messagePack [9, 10] _ rfl⟩,
    ⟨_, rfl, entrances_agree.2.2.1 "\u000b\u00a0" _ rfl⟩⟩

end DuplexRpc

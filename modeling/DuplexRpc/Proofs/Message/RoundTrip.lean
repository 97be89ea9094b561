import DuplexRpc.Proofs.Codec
import DuplexRpc.Proofs.Json.Utf8
import DuplexRpc.Proofs.Ordered

/-! A message whose values stand in order and whose error tells its kind by its code comes back as it
was sent: from JSON, from both of its texts, and from MessagePack with any bytes behind it. -/

namespace DuplexRpc

open Text Value

namespace ErrorKind

theorem code_ofCode (code : Int64) : (ofCode code).code = code := by
  unfold ofCode
  cases found : table.find? (·.code == code) with
  | none => rfl
  | some kind => simpa using List.find?_some found

end ErrorKind

theorem RpcError.layout_sorted_eq_toValue {e : RpcError} (h : e.IsPlain) :
    e.layout.sorted = e.toValue := by
  have ordered : FieldsOrdered e.entries := by
    obtain ⟨kind, message, data⟩ := e
    cases data with
    | none => exact ⟨trivial, trivial, trivial⟩
    | some v => exact ⟨trivial, trivial, (h.data v rfl).2, trivial⟩
  rw [layout, toValue, sorted, sortedFields_of_fieldsOrdered _ ordered]

namespace Message

/-- The message is carried as it is: its values stand in order, and its error is plain. -/
def IsPlain : Message → Prop
  | .notification n => ∀ v ∈ n.params, v.IsOrdered
  | .request r => ∀ v ∈ r.params, v.IsOrdered
  | .response ⟨_, .ok v⟩ => v.IsOrdered
  | .response ⟨_, .error e⟩ => e.IsPlain

variable {m m' : Message}

theorem carried_of_isPlain (h : m.IsPlain) : m.carried = m := by
  match m, h with
  | .notification ⟨method, none⟩, _ => rfl
  | .notification ⟨method, some v⟩, h => simp [carried, v.sorted_of_isOrdered (h v rfl)]
  | .request r, h => rw [carried, Request.carried_of_isOrdered h]
  | .response ⟨id, .ok v⟩, h =>
    simp only [carried, Response.carried, Outcome.carried, v.sorted_of_isOrdered h]
  | .response ⟨id, .error e⟩, h =>
    simp only [carried, Response.carried, Outcome.carried, e.carried_of_isPlain h]

/-- Put in order, the entries of the wire are those of the message as a value. -/
theorem layout_sorted_eq_toValue (h : m.IsPlain) : m.layout.sorted = m.toValue := by
  rw [layout, toValue, sorted]
  congr 1
  rcases m with ⟨method, _ | v⟩ | ⟨id, method, _ | v⟩ | ⟨id, e | v⟩
  · rfl
  · simp [entriesWith, entry, sortedFields, sorted, v.sorted_of_isOrdered (h v rfl)]
  · simp [entriesWith, entry, sortedFields, sorted, id.sorted_toValue]
  · simp [entriesWith, entry, sortedFields, sorted, id.sorted_toValue,
      v.sorted_of_isOrdered (h v rfl)]
  · simp [entriesWith, sortedFields, sorted, id.sorted_toValue, e.layout_sorted_eq_toValue h]
  · simp [entriesWith, sortedFields, sorted, id.sorted_toValue, v.sorted_of_isOrdered h]

theorem ofValue_layout_sorted (h : m.IsPlain) : ofValue m.layout.sorted = .ok m := by
  rw [ofValue, ofValue?_layout, carried_of_isPlain h]
  rfl

theorem ofValue_toValue (h : m.IsPlain) : ofValue m.toValue = .ok m := by
  rw [← layout_sorted_eq_toValue h, ofValue_layout_sorted h]

theorem parse_text {fields : List (String × Value)} (integral : (obj fields).isIntegral = true)
    (deep : (obj fields).depth ≤ Json.maxDepth) :
    parse (Json.text (.obj fields)) = ofValue (obj fields).sorted := by
  unfold parse
  simp only [Json.isBlankText_obj, Json.utf8_text, Json.parse_write integral deep, Bool.false_eq_true,
    if_false]

/-- The text of the wire and the text in order of the names are both read as the message. -/
theorem parse_texts (plain : m.IsPlain) (fits : Codec.json.Fits m.layout) :
    parse (Json.text m.layout) = .ok m ∧ parse (Json.text m.toValue) = .ok m := by
  obtain ⟨integral, deep⟩ := fits
  refine ⟨?_, ?_⟩
  · rw [layout, parse_text integral deep, ← layout, ofValue_layout_sorted plain]
  · have same := layout_sorted_eq_toValue plain
    have integral' : m.toValue.isIntegral = true := same ▸ isIntegral_sorted _ integral
    have deep' : m.toValue.depth ≤ Json.maxDepth :=
      same ▸ Nat.le_trans (depth_sorted_le _) deep
    have ordered : m.toValue.IsOrdered := same ▸ isOrdered_sorted _
    rw [toValue, ofFields, parse_text integral' deep', ← ofFields, ← toValue,
      sorted_of_isOrdered _ ordered, ofValue_toValue plain]

/-- In JSON a message is decoded as it was encoded. What is encoded is the bytes of a text, and the
message is parsed from this text and from its own, in which the entries are in order. -/
theorem json_round_trip (plain : m.IsPlain) (fits : Codec.json.Fits m.layout) :
    Codec.json.decode (Codec.json.encode m) = .ok m ∧
      utf8 (Json.text m.layout) = Codec.json.encode m ∧
      parse (Json.text m.layout) = .ok m ∧ parse (Json.text m.toValue) = .ok m := by
  refine ⟨?_, Json.utf8_text m.layout, parse_texts plain fits⟩
  rw [Codec.decode_encode fits, carried_of_isPlain plain]

/-- A request whose number is the largest, whose texts need escapes, and whose parameters hold null. -/
def awkward : Message :=
  .request
    { id := .num (.ofUInt64 0xFFFFFFFFFFFFFFFF)
      method := "a\"b\\c\n\u0001é𝄞"
      params := some (.obj [("", .null), ("k\t", .arr [.num (.ofInt64 Int64.minValue), .str "\u2028"])]) }

theorem isPlain_awkward : awkward.IsPlain := by
  rintro v ⟨⟩
  rw [IsOrdered, Fields.Sorted]
  constructor
  · decide
  · simp [IsOrdered, FieldsOrdered, AreOrdered]

theorem json_round_trip_awkward :
    Codec.json.decode (Codec.json.encode awkward) = .ok awkward ∧
      utf8 (Json.text awkward.layout) = Codec.json.encode awkward ∧
      parse (Json.text awkward.layout) = .ok awkward ∧
      parse (Json.text awkward.toValue) = .ok awkward :=
  json_round_trip isPlain_awkward (by decide)

end Message

/-! ### MessagePack -/

namespace Codec

variable {m m' : Message}

theorem isBlankFrame_append {bytes : List UInt8} (h : isBlankFrame bytes = false)
    (t : List UInt8) : isBlankFrame (bytes ++ t) = false := by
  unfold isBlankFrame at h ⊢
  rw [List.all_append, h, Bool.false_and]

/-- What stands behind a message in MessagePack is not read. -/
theorem decode_encode_append (plain : m.IsPlain) (fits : Codec.messagePack.Fits m.layout)
    (t : List UInt8) : Codec.messagePack.decode (Codec.messagePack.encode m ++ t) = .ok m := by
  have there := isBlankFrame_append (isBlankFrame_encode .messagePack m) t
  have parsed := MessagePack.parse_write fits.1 fits.2 t
  have read : Codec.messagePack.decodeValue (Codec.messagePack.encode m ++ t) =
      .ok m.layout.sorted := by
    rw [decodeValue, there]
    simp only [encode, Codec.read, write, parsed, Bool.false_eq_true, if_false]
    rfl
  rw [decode, read]
  exact Message.ofValue_layout_sorted plain

end Codec

namespace Message

variable {m : Message}

/-- In MessagePack a message is decoded as it was encoded, whatever follows it. So no encoded message
is the start of another, and different messages are encoded differently. -/
theorem messagePack_round_trip (plain : m.IsPlain) (fits : Codec.messagePack.Fits m.layout) :
    (∀ t, Codec.messagePack.decode (Codec.messagePack.encode m ++ t) = .ok m) ∧
      ∀ m' : Message, m'.IsPlain → Codec.messagePack.Fits m'.layout → ∀ t t',
        Codec.messagePack.encode m ++ t = Codec.messagePack.encode m' ++ t' → m = m' ∧ t = t' := by
  refine ⟨Codec.decode_encode_append plain fits, ?_⟩
  intro m' plain' fits' t t' same
  have here := Codec.decode_encode_append plain fits t
  rw [same, Codec.decode_encode_append plain' fits' t'] at here
  obtain rfl : m' = m := Except.ok.inj here
  exact ⟨rfl, List.append_cancel_left same⟩

/-- An error of a kind outside the table, with minus zero in its data. -/
def drifting : Message :=
  .response
    { id := .str "ü"
      result := .error
        { kind := .other 7
          message := ""
          data := some (.arr [.num (.float ⟨0x8000000000000000⟩ rfl), .num (.ofInt64 (-33)), .null]) } }

theorem isPlain_drifting : drifting.IsPlain := by
  refine ⟨by decide, ?_⟩
  rintro v ⟨⟩
  exact ⟨rfl, trivial, trivial, trivial, trivial⟩

theorem messagePack_round_trip_drifting :
    Codec.messagePack.decode (Codec.messagePack.encode drifting ++ [0xC0]) = .ok drifting ∧
      Codec.messagePack.encode drifting ++ [0xC0] ≠ Codec.messagePack.encode awkward ++ [0xC0] := by
  have fits : Codec.messagePack.Fits drifting.layout := by decide
  obtain ⟨decoded, apart⟩ := messagePack_round_trip isPlain_drifting fits
  refine ⟨decoded [0xC0], ?_⟩
  intro same
  have equal := (apart awkward isPlain_awkward (by decide) [0xC0] [0xC0] same).1
  cases equal

end Message

end DuplexRpc

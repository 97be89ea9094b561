import DuplexRpc.Proofs.Decode.Record
import DuplexRpc.Proofs.Except
import DuplexRpc.Proofs.Message.RoundTrip

/-! Which values are errors, and of which error a value tells. -/

namespace DuplexRpc

namespace Decoder

variable {v : Value}

theorem int64_eq_ok_iff {i : Int64} : int64.ofValue v = .ok i ↔ v = .ofInt64 i := by
  constructor
  · intro h
    match v, h with
    | .num (.int j hj), h =>
      simp only [int64, integer, number] at h
      by_cases fits : -0x8000000000000000 ≤ j ∧ j < 0x8000000000000000
      · rw [if_pos fits] at h
        obtain rfl := Except.ok.inj h
        have same : (Int64.ofInt j).toInt = j := Int64.toInt_ofInt_of_le fits.1 (by omega)
        simp only [Value.ofInt64, Number.ofInt64, same]
      · rw [if_neg fits] at h
        cases h
  · intro same
    rw [same, int64_ofInt64]

theorem string_eq_ok_iff {s : String} : string.ofValue v = .ok s ↔ v = .str s := by
  constructor
  · intro h
    cases v with
    | str t => rw [Except.ok.inj h]
    | _ => cases h
  · rintro rfl
    rfl

theorem readGiven_value (name : String) (entries : List (String × Value)) :
    readGiven .value name entries = .ok (Fields.given? name entries) := by
  unfold readGiven
  cases Fields.given? name entries <;> rfl

end Decoder

namespace RpcError

open Decoder Value

/-- The error of which a value tells: an object, or a list in the order of the wire. The code decides
the kind, and data that are null are none. -/
inductive SaidBy : Value → RpcError → Prop
  | object {fields : List (String × Value)} {code : Int64} {message : String}
      (hasCode : Fields.get? "code" fields = some (.ofInt64 code))
      (hasMessage : Fields.get? "message" fields = some (.str message)) :
      SaidBy (.obj fields) ⟨.ofCode code, message, Fields.given? "data" fields⟩
  | list (code : Int64) (message : String) (data : Option Value) :
      SaidBy (.arr ([.ofInt64 code, .str message] ++ data.toList))
        ⟨.ofCode code, message, data.filter fun v => !v.isNull⟩

variable {fields : List (String × Value)} {e : RpcError}

/-- Without a code or a message an object is no error, whatever else is wrong with it. -/
theorem decoder_missing (h : Fields.get? "code" fields = none ∨ Fields.get? "message" fields = none) :
    decoder.ofValue (.obj fields) ≠ .ok e := by
  intro read
  simp only [decoder, record, bind, Except.bind] at read
  split at read
  · cases read
  · simp only [Field.required, fillAbsent, Fields.contains_map_fst] at read
    rcases h with missing | missing
    · simp only [missing, Option.isSome_none, Bool.false_eq_true, if_false] at read
      cases read
    · cases hasCode : Fields.get? "code" fields with
      | none =>
        simp only [hasCode, Option.isSome_none, Bool.false_eq_true, if_false] at read
        cases read
      | some v =>
        simp only [hasCode, missing, Option.isSome_some, Option.isSome_none, Bool.false_eq_true,
          if_false, if_true] at read
        cases read

theorem decoder_obj {v w : Value} (sorted : Fields.Sorted fields)
    (hasCode : Fields.get? "code" fields = some v)
    (hasMessage : Fields.get? "message" fields = some w) :
    decoder.ofValue (.obj fields) = (int64.ofValue v).bind fun code =>
      (string.ofValue w).bind fun message =>
        .ok ⟨.ofCode code, message, Fields.given? "data" fields⟩ := by
  rw [decoder, record_obj "Error" _ sorted (.cons _ (.swap _ _ _))
    (by decide), fillGiven_required hasCode]
  cases int64.ofValue v with
  | error m => rfl
  | ok code =>
    simp only [Except.bind]
    rw [fillGiven_optional rfl, readGiven_value, Except.bind, fillGiven_required hasMessage]
    cases string.ofValue w with
    | error m => rfl
    | ok message =>
      have givenCode : (fields.map (·.1)).contains "code" = true := by
        rw [Fields.contains_map_fst, hasCode]
        rfl
      have givenMessage : (fields.map (·.1)).contains "message" = true := by
        rw [Fields.contains_map_fst, hasMessage]
        rfl
      apply fillAbsent_eq_self
      intro f hf
      simp only [List.mem_cons, List.not_mem_nil, or_false] at hf
      rcases hf with rfl | rfl | rfl
      · exact Or.inl givenCode
      · exact Or.inl givenMessage
      · exact Or.inr rfl

theorem decoder_obj_iff (sorted : Fields.Sorted fields) :
    decoder.ofValue (.obj fields) = .ok e ↔ SaidBy (.obj fields) e := by
  constructor
  · intro read
    cases hasCode : Fields.get? "code" fields with
    | none => exact absurd read (decoder_missing (Or.inl hasCode))
    | some v =>
      cases hasMessage : Fields.get? "message" fields with
      | none => exact absurd read (decoder_missing (Or.inr hasMessage))
      | some w =>
        rw [decoder_obj sorted hasCode hasMessage] at read
        obtain ⟨code, isCode, read⟩ := exists_of_bind_eq_ok read
        obtain ⟨message, isMessage, read⟩ := exists_of_bind_eq_ok read
        rw [int64_eq_ok_iff.mp isCode] at hasCode
        rw [string_eq_ok_iff.mp isMessage] at hasMessage
        obtain rfl := Except.ok.inj read
        exact .object hasCode hasMessage
  · intro said
    cases said with
    | object hasCode hasMessage =>
      rw [decoder_obj sorted hasCode hasMessage, int64_ofInt64]
      rfl

theorem recordOfItems_cons {σ α : Type} {f : Field σ} {d : Decoder α} {set : α → σ → σ}
    (same : f.decoder = d.map set) (expected : String) (place : Nat) (fs : List (Field σ)) (v : Value)
    (vs : List Value) (s : σ) :
    recordOfItems expected place (f :: fs) (v :: vs) s =
      (d.ofValue v).bind fun x => recordOfItems expected (place + 1) fs vs (set x s) := by
  rw [recordOfItems, same]
  simp only [Decoder.map]
  cases d.ofValue v <;> rfl

theorem optional_value (v : Value) :
    (Decoder.optional .value).ofValue v = .ok ((some v).filter fun v => !v.isNull) := by
  cases v <;> rfl

theorem decoder_arr_iff {items : List Value} :
    decoder.ofValue (.arr items) = .ok e ↔ SaidBy (.arr items) e := by
  constructor
  · intro read
    simp only [decoder, record] at read
    rcases items with _ | ⟨v, _ | ⟨w, more⟩⟩
    · cases read
    · rw [recordOfItems_cons rfl] at read
      obtain ⟨code, -, read⟩ := exists_of_bind_eq_ok read
      cases read
    · rw [recordOfItems_cons rfl] at read
      obtain ⟨code, isCode, read⟩ := exists_of_bind_eq_ok read
      rw [recordOfItems_cons rfl] at read
      obtain ⟨message, isMessage, read⟩ := exists_of_bind_eq_ok read
      rw [int64_eq_ok_iff.mp isCode, string_eq_ok_iff.mp isMessage]
      cases more with
      | nil =>
        obtain rfl := Except.ok.inj read
        exact .list code message none
      | cons data more =>
        rw [recordOfItems_cons rfl, optional_value] at read
        cases more with
        | nil =>
          obtain rfl := Except.ok.inj read
          exact .list code message (some data)
        | cons _ _ => cases read
  · intro said
    cases said with
    | list code message data =>
      simp only [decoder, record, List.cons_append, List.nil_append]
      rw [recordOfItems_cons rfl, int64_ofInt64, Except.bind, recordOfItems_cons rfl,
        string_eq_ok_iff.mpr rfl, Except.bind]
      cases data with
      | none => rfl
      | some v =>
        rw [Option.toList_some, recordOfItems_cons rfl, optional_value]
        rfl

/-- An error is decoded from the values that tell of it. -/
theorem decoder_eq_ok_iff {v : Value} (ordered : v.IsOrdered) :
    decoder.ofValue v = .ok e ↔ SaidBy v e := by
  cases v with
  | obj fields => exact decoder_obj_iff ordered.1
  | arr items => exact decoder_arr_iff
  | _ => exact ⟨nofun, nofun⟩

/-- An error that was decoded is carried as it is. -/
theorem SaidBy.isPlain {v : Value} (said : SaidBy v e) (ordered : v.IsOrdered) : e.IsPlain := by
  cases said with
  | object hasCode hasMessage =>
    refine ⟨by rw [ErrorKind.code_ofCode], ?_⟩
    intro v hv
    obtain ⟨found, there⟩ := Fields.get?_of_given? hv
    exact ⟨there, fieldsOrdered_iff.mp ordered.2 _ (Fields.mem_of_get? found)⟩
  | list code message data =>
    refine ⟨by rw [ErrorKind.code_ofCode], ?_⟩
    intro v hv
    obtain ⟨rfl, there⟩ := Option.filter_eq_some_iff.mp hv
    refine ⟨by simpa using there, areOrdered_iff.mp ordered v ?_⟩
    exact List.mem_append_right _ (List.mem_singleton.mpr rfl)

end RpcError

end DuplexRpc

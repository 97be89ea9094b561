import DuplexRpc.Proofs.Error.Reading

/-! Which values are messages, and of which message a value tells. -/

namespace DuplexRpc

open Decoder Value

theorem Id.decoder_eq_ok_iff {v : Value} {id : Id} : Id.decoder.ofValue v = .ok id ↔ v = id.toValue := by
  constructor
  · intro read
    cases v with
    | num n => rw [← Except.ok.inj read]; rfl
    | str s => rw [← Except.ok.inj read]; rfl
    | _ => cases read
  · intro same
    rw [same]
    cases id <;> rfl

namespace RawMessage

variable {fields : List (String × Value)}

/-- The fields of a message are looked up one by one. The first of error, id and method that does not
fit is reported. -/
theorem decoder_obj (sorted : Fields.Sorted fields) :
    decoder.ofValue (.obj fields) = (readGiven RpcError.decoder "error" fields).bind fun error =>
      (readGiven Id.decoder "id" fields).bind fun id =>
        (readGiven .string "method" fields).bind fun method =>
          .ok { id, method, error, params := Fields.get? "params" fields,
                result := Fields.get? "result" fields } := by
  have perm : ∀ a b c d e : Field RawMessage, [a, b, c, d, e].Perm [e, a, b, c, d] :=
    fun a b c d e => List.perm_append_singleton e [a, b, c, d]
  rw [decoder, record_obj "RawMessage" _ sorted (perm _ _ _ _ _) (by decide),
    fillGiven_optional rfl]
  cases readGiven RpcError.decoder "error" fields with
  | error m => rfl
  | ok error =>
    simp only [Except.bind]
    rw [fillGiven_optional rfl]
    cases readGiven Id.decoder "id" fields with
    | error m => rfl
    | ok id =>
      simp only [Except.bind]
      rw [fillGiven_optional rfl]
      cases readGiven .string "method" fields with
      | error m => rfl
      | ok method =>
        simp only [Except.bind]
        rw [fillGiven_value, fillGiven_value, fillGiven]
        refine (fillAbsent_eq_self ?_ _).trans ?_
        · intro f hf
          simp only [List.mem_cons, List.not_mem_nil, or_false] at hf
          rcases hf with rfl | rfl | rfl | rfl | rfl <;> exact Or.inr rfl
        · cases Fields.get? "params" fields <;> cases Fields.get? "result" fields <;> rfl

theorem decoder_eq_ok_iff (sorted : Fields.Sorted fields) (raw : RawMessage) :
    decoder.ofValue (.obj fields) = .ok raw ↔
      readGiven RpcError.decoder "error" fields = .ok raw.error ∧
        readGiven Id.decoder "id" fields = .ok raw.id ∧
          readGiven .string "method" fields = .ok raw.method ∧
            Fields.get? "params" fields = raw.params ∧ Fields.get? "result" fields = raw.result := by
  rw [decoder_obj sorted]
  constructor
  · intro read
    obtain ⟨error, isError, read⟩ := exists_of_bind_eq_ok read
    obtain ⟨id, isId, read⟩ := exists_of_bind_eq_ok read
    obtain ⟨method, isMethod, read⟩ := exists_of_bind_eq_ok read
    obtain rfl := Except.ok.inj read
    exact ⟨isError, isId, isMethod, rfl, rfl⟩
  · rintro ⟨isError, isId, isMethod, isParams, isResult⟩
    simp only [isError, isId, isMethod, isParams, isResult, Except.bind]

/-- What has no method is no call, so its parameters do not count. -/
theorem classify_params {raw : RawMessage} (h : raw.method = none) (params : Option Value) :
    classify { raw with params } = classify raw := by
  obtain ⟨id, method, old, result, error⟩ := raw
  cases h
  cases id <;> cases result <;> cases error <;> rfl

end RawMessage

namespace Message

/-- The message of which the entries of an object tell. An id, a method or an error that is null
counts as absent; parameters and a result that are null are there. -/
inductive SaidBy (fields : List (String × Value)) : Message → Prop
  | notification {method : String}
      (hasId : Fields.given? "id" fields = none)
      (hasMethod : Fields.given? "method" fields = some (.str method))
      (hasResult : Fields.get? "result" fields = none)
      (hasError : Fields.given? "error" fields = none) :
      SaidBy fields (.notification ⟨method, Fields.get? "params" fields⟩)
  | request {id : Id} {method : String}
      (hasId : Fields.given? "id" fields = some id.toValue)
      (hasMethod : Fields.given? "method" fields = some (.str method))
      (hasResult : Fields.get? "result" fields = none)
      (hasError : Fields.given? "error" fields = none) :
      SaidBy fields (.request ⟨id, method, Fields.get? "params" fields⟩)
  | success {id : Id} {v : Value}
      (hasId : Fields.given? "id" fields = some id.toValue)
      (hasMethod : Fields.given? "method" fields = none)
      (hasResult : Fields.get? "result" fields = some v)
      (hasError : Fields.given? "error" fields = none) :
      SaidBy fields (.response ⟨id, .ok v⟩)
  | failure {id : Id} {v : Value} {e : RpcError}
      (hasId : Fields.given? "id" fields = some id.toValue)
      (hasMethod : Fields.given? "method" fields = none)
      (hasResult : Fields.get? "result" fields = none)
      (hasError : Fields.given? "error" fields = some v)
      (said : RpcError.SaidBy v e) :
      SaidBy fields (.response ⟨id, .error e⟩)

/-- What an object has to hold to be a message. -/
structure HasForm (fields : List (String × Value)) : Prop where
  version : Fields.get? "jsonrpc" fields = some (.str version)
  id : ∀ v ∈ Fields.given? "id" fields, (∃ n, v = .num n) ∨ ∃ s, v = .str s
  method : ∀ v ∈ Fields.given? "method" fields, ∃ s, v = .str s
  error : ∀ v ∈ Fields.given? "error" fields, ∃ e, RpcError.SaidBy v e
  /-- The entries that are there are those of a call or those of an answer. -/
  shape :
    (Fields.given? "method" fields ≠ none ∧ Fields.get? "result" fields = none ∧
        Fields.given? "error" fields = none) ∨
      (Fields.given? "method" fields = none ∧ Fields.given? "id" fields ≠ none ∧
        ((Fields.get? "result" fields ≠ none ∧ Fields.given? "error" fields = none) ∨
          (Fields.get? "result" fields = none ∧ Fields.given? "error" fields ≠ none)))

variable {fields fields' : List (String × Value)} {m : Message}

theorem checkVersion_eq_ok_iff :
    checkVersion fields = .ok () ↔ Fields.get? "jsonrpc" fields = some (.str version) := by
  unfold checkVersion
  constructor
  · intro h
    split at h
    · rename_i v found
      split at h
      · rename_i same
        rw [found, same]
      · cases h
    · cases h
  · intro found
    simp only [found, if_true]

theorem ofValue_obj_eq_ok_iff :
    ofValue (.obj fields) = .ok m ↔ Fields.get? "jsonrpc" fields = some (.str version) ∧
      ∃ raw, RawMessage.decoder.ofValue (.obj fields) = .ok raw ∧ raw.classify = .ok m := by
  rw [← checkVersion_eq_ok_iff, ofValue, mapError_eq_ok_iff]
  simp only [ofValue?]
  cases checkVersion fields with
  | error r => simp
  | ok u =>
    cases RawMessage.decoder.ofValue (.obj fields) with
    | error r => simp
    | ok raw => cases read : raw.classify <;> simp [read]

theorem isOrdered_of_get? {name : String} {v : Value} (ordered : (obj fields).IsOrdered)
    (h : Fields.get? name fields = some v) : v.IsOrdered :=
  fieldsOrdered_iff.mp ordered.2 _ (Fields.mem_of_get? h)

theorem isOrdered_of_given? {name : String} {v : Value} (ordered : (obj fields).IsOrdered)
    (h : Fields.given? name fields = some v) : v.IsOrdered :=
  isOrdered_of_get? ordered (Fields.get?_of_given? h).1

section

variable (ordered : (obj fields).IsOrdered)

include ordered

theorem saidBy_of_raw {raw : RawMessage} (read : RawMessage.decoder.ofValue (.obj fields) = .ok raw)
    (h : raw.classify = .ok m) : SaidBy fields m := by
  obtain ⟨isError, isId, isMethod, isParams, isResult⟩ :=
    (RawMessage.decoder_eq_ok_iff ordered.1 _).mp read
  -- four of the sixteen shapes are messages
  match raw, h with
  | ⟨none, some method, params, none, none⟩, h =>
    obtain rfl := Except.ok.inj h
    obtain ⟨v, hasMethod, isText⟩ := readGiven_eq_some_iff.mp isMethod
    rw [string_eq_ok_iff.mp isText] at hasMethod
    rw [← isParams]
    exact .notification (readGiven_eq_none_iff.mp isId) hasMethod isResult
      (readGiven_eq_none_iff.mp isError)
  | ⟨some id, some method, params, none, none⟩, h =>
    obtain rfl := Except.ok.inj h
    obtain ⟨v, hasMethod, isText⟩ := readGiven_eq_some_iff.mp isMethod
    obtain ⟨w, hasId, isId⟩ := readGiven_eq_some_iff.mp isId
    rw [string_eq_ok_iff.mp isText] at hasMethod
    rw [Id.decoder_eq_ok_iff.mp isId] at hasId
    rw [← isParams]
    exact .request hasId hasMethod isResult (readGiven_eq_none_iff.mp isError)
  | ⟨some id, none, params, some v, none⟩, h =>
    obtain rfl := Except.ok.inj h
    obtain ⟨w, hasId, isId⟩ := readGiven_eq_some_iff.mp isId
    rw [Id.decoder_eq_ok_iff.mp isId] at hasId
    exact .success hasId (readGiven_eq_none_iff.mp isMethod) isResult
      (readGiven_eq_none_iff.mp isError)
  | ⟨some id, none, params, none, some e⟩, h =>
    obtain rfl := Except.ok.inj h
    obtain ⟨w, hasId, isId⟩ := readGiven_eq_some_iff.mp isId
    obtain ⟨v, hasError, said⟩ := readGiven_eq_some_iff.mp isError
    rw [Id.decoder_eq_ok_iff.mp isId] at hasId
    exact .failure hasId (readGiven_eq_none_iff.mp isMethod) isResult hasError
      ((RpcError.decoder_eq_ok_iff (isOrdered_of_given? ordered hasError)).mp said)

theorem exists_raw_of_saidBy (said : SaidBy fields m) :
    ∃ raw, RawMessage.decoder.ofValue (.obj fields) = .ok raw ∧ raw.classify = .ok m := by
  have read := RawMessage.decoder_eq_ok_iff ordered.1
  cases said with
  | @notification method hasId hasMethod hasResult hasError =>
    refine ⟨⟨none, some method, _, none, none⟩, (read _).mpr ⟨?_, ?_, ?_, rfl, hasResult⟩, rfl⟩
    · exact readGiven_eq_none_iff.mpr hasError
    · exact readGiven_eq_none_iff.mpr hasId
    · exact readGiven_eq_some_iff.mpr ⟨_, hasMethod, rfl⟩
  | @request id method hasId hasMethod hasResult hasError =>
    refine ⟨⟨some id, some method, _, none, none⟩, (read _).mpr ⟨?_, ?_, ?_, rfl, hasResult⟩, rfl⟩
    · exact readGiven_eq_none_iff.mpr hasError
    · exact readGiven_eq_some_iff.mpr ⟨_, hasId, Id.decoder_eq_ok_iff.mpr rfl⟩
    · exact readGiven_eq_some_iff.mpr ⟨_, hasMethod, rfl⟩
  | @success id v hasId hasMethod hasResult hasError =>
    refine ⟨⟨some id, none, _, some v, none⟩, (read _).mpr ⟨?_, ?_, ?_, rfl, hasResult⟩, rfl⟩
    · exact readGiven_eq_none_iff.mpr hasError
    · exact readGiven_eq_some_iff.mpr ⟨_, hasId, Id.decoder_eq_ok_iff.mpr rfl⟩
    · exact readGiven_eq_none_iff.mpr hasMethod
  | @failure id v e hasId hasMethod hasResult hasError said =>
    have isError := (RpcError.decoder_eq_ok_iff (isOrdered_of_given? ordered hasError)).mpr said
    refine ⟨⟨some id, none, _, none, some e⟩, (read _).mpr ⟨?_, ?_, ?_, rfl, hasResult⟩, rfl⟩
    · exact readGiven_eq_some_iff.mpr ⟨_, hasError, isError⟩
    · exact readGiven_eq_some_iff.mpr ⟨_, hasId, Id.decoder_eq_ok_iff.mpr rfl⟩
    · exact readGiven_eq_none_iff.mpr hasMethod

theorem ofValue_obj_iff : ofValue (.obj fields) = .ok m ↔
    Fields.get? "jsonrpc" fields = some (.str version) ∧ SaidBy fields m := by
  rw [ofValue_obj_eq_ok_iff]
  constructor
  · rintro ⟨hasVersion, raw, read, isMessage⟩
    exact ⟨hasVersion, saidBy_of_raw ordered read isMessage⟩
  · rintro ⟨hasVersion, said⟩
    exact ⟨hasVersion, exists_raw_of_saidBy ordered said⟩

/-- A message that was read is carried as it is. -/
theorem SaidBy.isPlain (said : SaidBy fields m) : m.IsPlain := by
  cases said with
  | notification _ _ _ _ => exact fun v hv => isOrdered_of_get? ordered hv
  | request _ _ _ _ => exact fun v hv => isOrdered_of_get? ordered hv
  | success _ _ hasResult _ => exact isOrdered_of_get? ordered hasResult
  | failure _ _ _ hasError said => exact said.isPlain (isOrdered_of_given? ordered hasError)

end

/-! ### The form of a message -/

theorem SaidBy.hasForm (said : SaidBy fields m)
    (hasVersion : Fields.get? "jsonrpc" fields = some (.str version)) : HasForm fields := by
  have isId : ∀ id : Id, (∃ n, id.toValue = .num n) ∨ ∃ s, id.toValue = .str s := by
    intro id
    cases id with
    | num n => exact Or.inl ⟨n, rfl⟩
    | str s => exact Or.inr ⟨s, rfl⟩
  cases said with
  | notification hasId hasMethod hasResult hasError =>
    exact ⟨hasVersion, by simp [hasId], by simp [hasMethod], by simp [hasError],
      Or.inl ⟨by simp [hasMethod], hasResult, hasError⟩⟩
  | request hasId hasMethod hasResult hasError =>
    exact ⟨hasVersion, by simp [hasId, isId], by simp [hasMethod], by simp [hasError],
      Or.inl ⟨by simp [hasMethod], hasResult, hasError⟩⟩
  | success hasId hasMethod hasResult hasError =>
    exact ⟨hasVersion, by simp [hasId, isId], by simp [hasMethod], by simp [hasError],
      Or.inr ⟨hasMethod, by simp [hasId], Or.inl ⟨by simp [hasResult], hasError⟩⟩⟩
  | failure hasId hasMethod hasResult hasError said =>
    refine ⟨hasVersion, by simp [hasId, isId], by simp [hasMethod], ?_,
      Or.inr ⟨hasMethod, by simp [hasId], Or.inr ⟨hasResult, by simp [hasError]⟩⟩⟩
    rintro v hv
    rw [hasError] at hv
    cases hv
    exact ⟨_, said⟩

theorem HasForm.exists_id (form : HasForm fields) (there : Fields.given? "id" fields ≠ none) :
    ∃ id : Id, Fields.given? "id" fields = some id.toValue := by
  obtain ⟨v, hasId⟩ := Option.ne_none_iff_exists'.mp there
  rcases form.id v hasId with ⟨n, rfl⟩ | ⟨s, rfl⟩
  · exact ⟨.num n, hasId⟩
  · exact ⟨.str s, hasId⟩

theorem HasForm.exists_saidBy (form : HasForm fields) : ∃ m, SaidBy fields m := by
  rcases form.shape with ⟨isCall, hasResult, hasError⟩ | ⟨hasMethod, isAnswer, hasOne⟩
  · obtain ⟨v, hasMethod⟩ := Option.ne_none_iff_exists'.mp isCall
    obtain ⟨method, rfl⟩ := form.method v hasMethod
    by_cases hasId : Fields.given? "id" fields = none
    · exact ⟨_, .notification hasId hasMethod hasResult hasError⟩
    · obtain ⟨id, hasId⟩ := form.exists_id hasId
      exact ⟨_, .request hasId hasMethod hasResult hasError⟩
  · obtain ⟨id, hasId⟩ := form.exists_id isAnswer
    rcases hasOne with ⟨isOk, hasError⟩ | ⟨hasResult, isError⟩
    · obtain ⟨v, hasResult⟩ := Option.ne_none_iff_exists'.mp isOk
      exact ⟨_, .success hasId hasMethod hasResult hasError⟩
    · obtain ⟨v, hasError⟩ := Option.ne_none_iff_exists'.mp isError
      obtain ⟨e, said⟩ := form.error v hasError
      exact ⟨_, .failure hasId hasMethod hasResult hasError said⟩

/-! ### What does not count -/

/-- The entries that count are the same: the parameters count in a call alone, and others never do. -/
structure Alike (fields fields' : List (String × Value)) : Prop where
  same : ∀ name ∈ ["jsonrpc", "id", "method", "result", "error"],
    Fields.get? name fields = Fields.get? name fields'
  params : Fields.given? "method" fields = none ∨
    Fields.get? "params" fields = Fields.get? "params" fields'

variable (alike : Alike fields fields')

include alike

theorem Alike.given? {name : String} (h : name ∈ ["jsonrpc", "id", "method", "result", "error"]) :
    Fields.given? name fields = Fields.given? name fields' := by
  rw [Fields.given?, alike.same name h, Fields.given?]

theorem Alike.readGiven {α : Type} (d : Decoder α) (name : String)
    (h : name ∈ ["jsonrpc", "id", "method", "result", "error"]) :
    d.readGiven name fields = d.readGiven name fields' := by
  rw [Decoder.readGiven, alike.given? h, Decoder.readGiven]

/-- What is read of alike entries is told apart by the parameters of an answer alone. -/
theorem Alike.decoded (sorted : Fields.Sorted fields) (sorted' : Fields.Sorted fields') :
    RawMessage.decoder.ofValue (.obj fields) = RawMessage.decoder.ofValue (.obj fields') ∨
      ∃ raw params, raw.method = none ∧ RawMessage.decoder.ofValue (.obj fields) = .ok raw ∧
        RawMessage.decoder.ofValue (.obj fields') = .ok { raw with params } := by
  rw [RawMessage.decoder_obj sorted, RawMessage.decoder_obj sorted',
    alike.readGiven RpcError.decoder "error" (by simp),
    alike.readGiven Id.decoder "id" (by simp),
    alike.readGiven .string "method" (by simp), alike.same "result" (by simp)]
  rcases alike.params with noMethod | sameParams
  · rw [alike.given? (by simp)] at noMethod
    rw [readGiven_eq_none_iff.mpr noMethod]
    cases Decoder.readGiven RpcError.decoder "error" fields' with
    | error m => exact Or.inl rfl
    | ok error =>
      cases Decoder.readGiven Id.decoder "id" fields' with
      | error m => exact Or.inl rfl
      | ok id => exact Or.inr ⟨_, _, rfl, rfl, rfl⟩
  · rw [sameParams]
    exact Or.inl rfl

theorem Alike.ofValue_eq (sorted : Fields.Sorted fields) (sorted' : Fields.Sorted fields') :
    ofValue (.obj fields) = ofValue (.obj fields') := by
  have version : checkVersion fields = checkVersion fields' := by
    unfold checkVersion
    rw [alike.same "jsonrpc" (by simp)]
  simp only [ofValue, ofValue?, version]
  rcases alike.decoded sorted sorted' with same | ⟨raw, params, noMethod, read, read'⟩
  · rw [same]
  · rw [read, read']
    simp only [RawMessage.classify_params noMethod]

omit alike

/-! ### The whole -/

theorem kind_of_ofValue {v : Value} {e : RpcError} (h : ofValue v = .error e) : e.kind = .parseError := by
  unfold ofValue at h
  cases read : ofValue? v with
  | error r =>
    rw [read] at h
    obtain rfl := Except.error.inj h
    rfl
  | ok m =>
    rw [read] at h
    cases h

/-- A value is a message exactly where it has the form of one, and any other value is a parse error.
The message is the one of which its entries tell, and is read again from the value that it is written
as. Entries that do not count never change the outcome. -/
theorem ofValue_classifies {v : Value} (ordered : v.IsOrdered) :
    ((∃ m, ofValue v = .ok m) ↔ ∃ fields, v = .obj fields ∧ HasForm fields) ∧
      (∀ m, ofValue v = .ok m →
        (∃ fields, v = .obj fields ∧ SaidBy fields m) ∧ ofValue m.toValue = .ok m) ∧
      (∀ e, ofValue v = .error e → e.kind = .parseError) ∧
      (∀ fields fields', v = .obj fields → (obj fields').IsOrdered → Alike fields fields' →
        ofValue (.obj fields') = ofValue v) := by
  have accepted : ∀ m, ofValue v = .ok m → ∃ fields, v = .obj fields ∧ HasForm fields ∧
      SaidBy fields m ∧ m.IsPlain := by
    intro m read
    cases v with
    | obj fields =>
      obtain ⟨hasVersion, said⟩ := (ofValue_obj_iff ordered).mp read
      exact ⟨fields, rfl, said.hasForm hasVersion, said, said.isPlain ordered⟩
    | _ => cases read
  refine ⟨⟨?_, ?_⟩, ?_, ?_, ?_⟩
  · rintro ⟨m, read⟩
    obtain ⟨fields, same, form, -⟩ := accepted m read
    exact ⟨fields, same, form⟩
  · rintro ⟨fields, rfl, form⟩
    obtain ⟨m, said⟩ := form.exists_saidBy
    exact ⟨m, (ofValue_obj_iff ordered).mpr ⟨form.version, said⟩⟩
  · intro m read
    obtain ⟨fields, same, -, said, plain⟩ := accepted m read
    exact ⟨⟨fields, same, said⟩, ofValue_toValue plain⟩
  · intro e
    exact kind_of_ofValue
  · rintro fields fields' rfl ordered' alike
    exact (alike.ofValue_eq ordered.1 ordered'.1).symm

/-- An answer whose error is a list with null data, next to parameters and an unknown entry. -/
def late : List (String × Value) :=
  [("error", .arr [.ofInt64 (-32601), .str "late", .null]), ("id", .str "a"),
    ("jsonrpc", .str version), ("params", .bool true), ("x", .null)]

theorem ofValue_classifies_late :
    (obj late).IsOrdered ∧ (∃ m, ofValue (.obj late) = .ok m) ∧
      ofValue (.obj (late.take 3)) = ofValue (.obj late) := by
  have ordered : (obj late).IsOrdered := by
    rw [IsOrdered, Fields.Sorted]
    constructor
    · decide
    · simp [late, IsOrdered, AreOrdered, FieldsOrdered, Value.ofInt64]
  have ordered' : (obj (late.take 3)).IsOrdered := by
    rw [IsOrdered, Fields.Sorted]
    constructor
    · decide
    · simp [late, IsOrdered, AreOrdered, FieldsOrdered, Value.ofInt64]
  have form : HasForm late := by
    have said : SaidBy late (.response ⟨.str "a", .error ⟨.methodNotFound, "late", none⟩⟩) :=
      .failure rfl rfl rfl rfl (.list (-32601) "late" (some .null))
    exact said.hasForm rfl
  have alike : Alike late (late.take 3) := ⟨by simp [late, Fields.get?], Or.inl rfl⟩
  obtain ⟨accepted, -, -, others⟩ := ofValue_classifies ordered
  exact ⟨ordered, accepted.mpr ⟨late, rfl, form⟩, others late _ rfl ordered' alike⟩

end Message

end DuplexRpc

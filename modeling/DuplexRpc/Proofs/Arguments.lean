import DuplexRpc.Mapping.Basic
import DuplexRpc.Proofs.Ordered

/-! The arguments that parameters hold, place by place, and which packings lose none: the arguments
of a method come back from its parameters unless two of its named parameters have one name. A single
null and an empty object of names are left out, and come back. -/

namespace DuplexRpc

namespace Packing

variable {packing : Packing} {names : List String} {args : List Value} {params : Option Value}

/-- A value is of the wrong shape for the parameters of a packing, null included. -/
def Misshapen : Packing → Value → Prop
  | .single, _ => False
  | .positional, .arr _ => False
  | .named, .obj _ => False
  | _, _ => True

/-- The argument that parameters hold for one of the names: the parameters themselves, an item of
the array, or the entry of the name, which goes to the first of equal names. What is not there is
null. -/
def argumentAt (packing : Packing) (names : List String) (params : Option Value)
    (place : Fin names.length) : Value :=
  match packing, params with
  | .single, some v => v
  | .positional, some (.arr values) => values[place.val]?.getD .null
  | .named, some (.obj fields) =>
    if names[place] ∈ names.take place then .null else (Fields.get? names[place] fields).getD .null
  | _, _ => .null

/-- The arguments are those that the parameters hold, one for each name and no more. -/
structure Reads (packing : Packing) (names : List String) (params : Option Value)
    (args : List Value) : Prop where
  length : args.length = names.length
  place : ∀ place : Fin names.length, args[place.val]? = some (packing.argumentAt names params place)

/-! ### Arguments in parameters -/

theorem length_takeNames (fields : List (String × Value)) :
    (takeNames names fields).length = names.length := by
  induction names generalizing fields with
  | nil => rfl
  | cons name names ih => rw [takeNames, List.length_cons, ih, List.length_cons]

theorem getElem?_takeNames {fields : List (String × Value)}
    (distinct : (fields.map (·.1)).Nodup) {i : Nat} (hi : i < names.length) :
    (takeNames names fields)[i]? =
      some (if names[i] ∈ names.take i then .null
        else (Fields.get? names[i] fields).getD .null) := by
  induction names generalizing fields i with
  | nil => cases hi
  | cons name names ih =>
    rw [takeNames]
    cases i with
    | zero => simp only [List.getElem?_cons_zero, List.getElem_cons_zero, List.take_zero,
        List.not_mem_nil, if_false]
    | succ i =>
      have here : i < names.length := Nat.lt_of_succ_lt_succ hi
      have left : ((Fields.erase name fields).map (·.1)).Nodup :=
        distinct.sublist (Fields.erase_sublist.map _)
      rw [List.getElem?_cons_succ, ih left here]
      simp only [List.getElem_cons_succ, List.take_succ_cons, List.mem_cons]
      by_cases same : names[i] = name
      · -- The entry went to the first of the names.
        rw [same, Fields.get?_erase_self distinct]
        simp
      · simp only [same, false_or, Fields.get?_erase_of_ne same]

theorem takeNames_ofList_zip (distinct : names.Nodup) (length : args.length = names.length) :
    takeNames names (Fields.ofList (names.zip args)) = args := by
  have keys : ((names.zip args).map (·.1)).Nodup := by
    have same : (names.zip args).map (·.1) = names := List.map_fst_zip (by omega)
    rwa [same]
  apply List.ext_getElem
  · rw [length_takeNames, length]
  · intro i hi hi'
    have named : i < names.length := length ▸ hi'
    have paired : i < (names.zip args).length := by
      rw [List.length_zip]
      omega
    have there : (names[i], args[i]) ∈ names.zip args := by
      have mem := List.getElem_mem paired
      rwa [List.getElem_zip] at mem
    have first : names[i] ∉ names.take i := by
      rw [List.mem_take_iff_getElem]
      rintro ⟨j, hj, same⟩
      exact List.pairwise_iff_getElem.mp distinct j i (by omega) named (by omega) same
    apply Option.some.inj
    rw [← List.getElem?_eq_getElem hi, getElem?_takeNames (Fields.sorted_ofList _).nodup named,
      if_neg first, Fields.get?_ofList keys there, Option.getD_some]

theorem getElem?_resize {values : List Value} {count i : Nat} (hi : i < count) :
    (resize count values)[i]? = some (values[i]?.getD .null) := by
  rw [resize, List.getElem?_take_of_lt hi, List.getElem?_append]
  split
  · rename_i there
    rw [List.getElem?_eq_getElem there, Option.getD_some]
  · rename_i missing
    rw [List.getElem?_eq_none (Nat.le_of_not_lt missing), List.getElem?_replicate,
      if_pos (by omega), Option.getD_none]

theorem length_resize (count : Nat) (values : List Value) : (resize count values).length = count := by
  rw [resize, List.length_take, List.length_append, List.length_replicate]
  omega

theorem resize_of_length (length : args.length = names.length) :
    resize names.length args = args := by
  rw [resize, ← length, List.take_left]

theorem reads_absent (other : packing ≠ .single) :
    packing.Reads names none (List.replicate names.length .null) where
  length := List.length_replicate
  place place := by
    rw [List.getElem?_replicate, if_pos place.isLt]
    cases packing with
    | single => exact absurd rfl other
    | positional => rfl
    | named => rfl

theorem reads_positional (values : List Value) :
    Reads .positional names (some (.arr values)) (resize names.length values) where
  length := length_resize names.length values
  place place := getElem?_resize place.isLt

theorem reads_named {fields : List (String × Value)} (distinct : (fields.map (·.1)).Nodup) :
    Reads .named names (some (.obj fields)) (takeNames names fields) where
  length := length_takeNames fields
  place place := getElem?_takeNames distinct place.isLt

theorem reads_single (one : names.length = 1) (params : Option Value) :
    Reads .single names params [params.getD .null] where
  length := one.symm
  place place := by
    have first : place.val = 0 := by omega
    rw [first, List.getElem?_cons_zero]
    cases params <;> rfl

/-! ### Unpacking -/

/-- Parameters are refused for their shape alone. -/
theorem unpack_eq_error_iff {e : RpcError} : packing.unpack names params = .error e ↔
    ∃ v, params = some v ∧ packing.Misshapen v ∧ e = packing.wrongShape v := by
  cases packing <;> rcases params with _ | (_ | _ | _ | _ | _ | _) <;>
    simp [unpack, Misshapen, eq_comm]

theorem reads_of_unpack (one : packing = .single → names.length = 1)
    (distinct : ∀ fields, params = some (.obj fields) → (fields.map (·.1)).Nodup)
    (unpacked : packing.unpack names params = .ok args) : packing.Reads names params args := by
  cases packing with
  | single =>
    obtain rfl := Except.ok.inj unpacked
    exact reads_single (one rfl) params
  | positional =>
    rcases params with _ | (_ | _ | _ | _ | values | _) <;> cases unpacked
    · exact reads_absent (by decide)
    · exact reads_positional values
  | named =>
    rcases params with _ | (_ | _ | _ | _ | _ | fields) <;> cases unpacked
    · exact reads_absent (by decide)
    · exact reads_named (distinct fields rfl)

/-! ### Packing -/

/-- As many arguments as names are packed, and never as an explicit null. -/
theorem exists_pack (one : packing = .single → names.length = 1)
    (length : args.length = names.length) :
    ∃ params, packing.pack names args = .ok params ∧ params ≠ some .null := by
  cases packing with
  | single =>
    obtain ⟨arg, rfl⟩ := List.length_eq_one_iff.mp (length.trans (one rfl))
    refine ⟨_, rfl, ?_⟩
    cases arg <;> simp [Value.isNull]
  | positional => exact ⟨_, rfl, by simp⟩
  | named =>
    simp only [pack, length, ne_eq, not_true_eq_false, if_false]
    split
    · exact ⟨_, rfl, by simp⟩
    · exact ⟨_, rfl, by simp [Value.ofFields]⟩

/-- What is packed is unpacked. -/
theorem unpack_pack (single : packing = .single → names.length = 1)
    (named : packing = .named → names.Nodup) (length : args.length = names.length) :
    ∃ params, packing.pack names args = .ok params ∧
      packing.unpack names params = .ok args := by
  cases packing with
  | single =>
    obtain ⟨arg, rfl⟩ := List.length_eq_one_iff.mp (length.trans (single rfl))
    refine ⟨_, rfl, ?_⟩
    cases arg <;> rfl
  | positional => exact ⟨_, rfl, congrArg Except.ok (resize_of_length length)⟩
  | named =>
    simp only [pack, length, ne_eq, not_true_eq_false, if_false]
    by_cases empty : args = []
    · subst empty
      refine ⟨none, rfl, ?_⟩
      have none : names = [] := List.length_eq_zero_iff.mp length.symm
      rw [none]
      rfl
    · have more : args.isEmpty = false := by simpa using empty
      rw [more]
      exact ⟨_, rfl, congrArg Except.ok (takeNames_ofList_zip (named rfl) length)⟩

theorem isOrdered_of_pack (packed : packing.pack names args = .ok params) (ordered : ∀ v ∈ args, v.IsOrdered) :
    ∀ v ∈ params, v.IsOrdered := by
  cases packing with
  | single =>
    rcases args with _ | ⟨arg, _ | ⟨second, more⟩⟩
    · cases packed
    · obtain rfl := Except.ok.inj packed
      intro v hv
      by_cases null : arg.isNull = true
      · rw [if_pos null] at hv
        cases hv
      · rw [if_neg null] at hv
        exact Option.some.inj hv ▸ ordered arg List.mem_cons_self
    · cases packed
  | positional =>
    obtain rfl := Except.ok.inj packed
    intro v hv
    rw [← Option.some.inj hv]
    exact Value.areOrdered_iff.mpr ordered
  | named =>
    rw [pack] at packed
    split at packed
    · cases packed
    · split at packed
      · obtain rfl := Except.ok.inj packed
        intro v hv
        cases hv
      · obtain rfl := Except.ok.inj packed
        intro v hv
        rw [← Option.some.inj hv]
        apply Value.isOrdered_ofFields
        intro e he
        exact ordered e.2 (List.of_mem_zip he).2

/-- Of named arguments with one name some are lost, if they are not null. -/
theorem nodup_of_lossless {arg : Value} (there : arg ≠ .null)
    (lossless : (pack .named names (List.replicate names.length arg)).bind
      (unpack .named names) = .ok (List.replicate names.length arg)) : names.Nodup := by
  refine List.pairwise_iff_getElem.mpr fun i j hi hj lt same => there ?_
  have more : (List.replicate names.length arg).isEmpty = false := by
    rw [List.isEmpty_eq_false_iff, ne_eq, List.replicate_eq_nil_iff]
    omega
  simp only [pack, List.length_replicate, ne_eq, not_true_eq_false, if_false, more,
    Bool.false_eq_true, Except.bind, unpack, Value.ofFields, Except.ok.injEq] at lossless
  have second := getElem?_takeNames
    (Fields.sorted_ofList (names.zip (List.replicate names.length arg))).nodup hj
  have before : names[j] ∈ names.take j :=
    same ▸ List.mem_take_iff_getElem.mpr ⟨i, by omega, rfl⟩
  rw [lossless, List.getElem?_replicate, if_pos hj, if_pos before] at second
  exact Option.some.inj second

end Packing

namespace MethodMapping

variable {service : ServiceDescriptor} {method : MethodDescriptor} {m : MethodMapping}

/-- A mapping that packs one argument alone is of a method with one parameter. -/
theorem single_of_resolve (h : resolve service method = .ok m) (single : m.packing = .single) :
    m.params.length = 1 := by
  rw [resolve] at h
  split at h
  · cases h
  · rename_i valid
    obtain rfl := Except.ok.inj h
    rw [invalid?] at valid
    by_cases one : method.params.length = 1
    · exact one
    · rw [if_pos ⟨single, one⟩] at valid
      cases valid

/-- The other side gets the arguments of a call. -/
theorem unpack_pack {args : List Value} (accepted : resolve service method = .ok m)
    (named : m.packing = .named → m.params.Nodup) (length : args.length = m.params.length) :
    ∃ params, m.pack args = .ok params ∧ m.unpack params = .ok args :=
  Packing.unpack_pack (single_of_resolve accepted) named length

/-- All arguments of the declared number come back from the parameters that they are packed as. -/
def IsLossless (m : MethodMapping) : Prop :=
  ∀ args, args.length = m.params.length → (m.pack args).bind m.unpack = .ok args

/-- How a mapping carries arguments in parameters. -/
structure Conveys (m : MethodMapping) : Prop where
  packs : ∀ args, args.length = m.params.length →
    ∃ params, m.pack args = .ok params ∧ params ≠ some .null
  /-- Nothing is lost unless two named parameters have one name. -/
  isLossless_iff : m.IsLossless ↔ m.packing ≠ .named ∨ m.params.Nodup
  refuses : ∀ v, m.packing.Misshapen v →
    m.unpack (some v) = .error (m.packing.wrongShape v) ∧
      (m.packing.wrongShape v).kind = .invalidParams
  /-- All other parameters are read, absent ones too. An object has no name twice. -/
  reads : ∀ params, (∀ v ∈ params, ¬ m.packing.Misshapen v) →
    (∀ fields, params = some (.obj fields) → (fields.map (·.1)).Nodup) →
    ∃ args, m.unpack params = .ok args ∧ m.packing.Reads m.params params args

theorem isLossless_of_distinct (accepted : resolve service method = .ok m)
    (distinct : m.packing = .named → m.params.Nodup) : m.IsLossless := by
  intro args length
  obtain ⟨params, packed, unpacked⟩ := unpack_pack accepted distinct length
  rw [packed]
  exact unpacked

theorem IsLossless.nodup (lossless : m.IsLossless) (named : m.packing = .named) :
    m.params.Nodup := by
  have all := lossless (List.replicate m.params.length (.bool true)) List.length_replicate
  unfold pack unpack at all
  rw [named] at all
  exact Packing.nodup_of_lossless (by simp) all

/-- Every mapping that a declared method has conveys its arguments. -/
theorem conveys_of_resolve (accepted : resolve service method = .ok m) : m.Conveys where
  packs _ length := Packing.exists_pack (single_of_resolve accepted) length
  isLossless_iff := by
    constructor
    · intro lossless
      by_cases named : m.packing = .named
      · exact .inr (lossless.nodup named)
      · exact .inl named
    · rintro (other | distinct)
      · exact isLossless_of_distinct accepted fun named => absurd named other
      · exact isLossless_of_distinct accepted fun _ => distinct
  refuses v misshapen := ⟨Packing.unpack_eq_error_iff.mpr ⟨v, rfl, misshapen, rfl⟩, rfl⟩
  reads params fits distinct := by
    cases unpacked : m.unpack params with
    | error e =>
      obtain ⟨v, there, misshapen, -⟩ := Packing.unpack_eq_error_iff.mp unpacked
      exact absurd misshapen (fits v there)
    | ok args =>
      exact ⟨args, rfl, Packing.reads_of_unpack (single_of_resolve accepted) distinct unpacked⟩

/-- A method with two named parameters of one name. -/
def equalNames : MethodDescriptor :=
  { place := 0, ident := "m", packing := some .named, params := ["a", "b", "a"]
    resultType := "Value" }

/-- Such a method has a mapping, and of its arguments some are lost. -/
theorem conveys_of_resolve_equal_names :
    ∃ m, resolve { name := "S" } equalNames = .ok m ∧ m.Conveys ∧ ¬ m.IsLossless := by
  have accepted : ∃ m, resolve { name := "S" } equalNames = .ok m ∧ m.packing = .named ∧
      m.params = ["a", "b", "a"] := ⟨_, rfl, rfl, rfl⟩
  obtain ⟨m, accepted, named, params⟩ := accepted
  refine ⟨m, accepted, conveys_of_resolve accepted, fun lossless => ?_⟩
  have distinct := lossless.nodup named
  rw [params] at distinct
  exact absurd distinct (by decide)

end MethodMapping

end DuplexRpc

import DuplexRpc.Declaration.Expansion
import DuplexRpc.Mapping.Basic
import DuplexRpc.Proofs.Declaration.Method
import Mathlib.Data.List.Nodup

/-! What becomes of a declaration. Descriptors, handlers and stubs are made side by side from the
methods of a trait: at each place they belong to one method, and its arguments go from the stub to the
handler and on to the method in their order. -/

namespace DuplexRpc.Declaration

variable {dependency : Option String} {options : ServiceOptions} {t : TraitDecl} {e : Expansion}
  {m : TraitMethod} {method : Method} {place : Nat}

/-! ### Owned forms -/

namespace TypeExpr

/-- The owned form of a type. That of a reference is what it refers to, or the growable form of a text
or of a slice; any other type is its own. -/
inductive OwnedForm : TypeExpr → TypeExpr → Prop
  | text (lifetime : String) (mutable : Bool) :
      OwnedForm (.reference lifetime mutable (.path "" [.plain "str"])) ownedText
  | slice (lifetime : String) (mutable : Bool) (item : TypeExpr) :
      OwnedForm (.reference lifetime mutable (.slice item)) (vectorOf item)
  | referent (lifetime : String) (mutable : Bool) {t : TypeExpr}
      (noText : t ≠ .path "" [.plain "str"]) (noSlice : ∀ item, t ≠ .slice item) :
      OwnedForm (.reference lifetime mutable t) t
  | value {t : TypeExpr}
      (plain : ∀ lifetime mutable referent, t ≠ .reference lifetime mutable referent) :
      OwnedForm t t

theorem isName_eq_true_iff {name : String} {t : TypeExpr} :
    t.isName name = true ↔ t = .path "" [.plain name] := by
  unfold isName
  split
  · rw [beq_iff_eq]
    constructor
    · rintro rfl
      rfl
    · intro same
      injection same with _ segments
      injection segments with segment
      injection segment
  · rename_i other
    constructor
    · intro h
      cases h
    · intro same
      exact absurd same (other name)

theorem isReference_eq_true_iff {t : TypeExpr} : t.isReference = true ↔
    ∃ lifetime mutable referent, t = .reference lifetime mutable referent := by
  cases t with
  | reference lifetime mutable referent => exact ⟨fun _ => ⟨_, _, _, rfl⟩, fun _ => rfl⟩
  | path | slice | paren | bounds | other => exact ⟨nofun, nofun⟩

theorem ownedForm_owned (t : TypeExpr) : t.OwnedForm t.owned := by
  cases t with
  | reference lifetime mutable referent =>
    cases referent with
    | slice item => exact .slice lifetime mutable item
    | path front segments =>
      by_cases isText : (path front segments).isName "str" = true
      · rw [isName_eq_true_iff.mp isText]
        exact .text lifetime mutable
      · have own : owned (.reference lifetime mutable (.path front segments)) =
            .path front segments := if_neg isText
        rw [own]
        exact .referent lifetime mutable (fun same => isText (isName_eq_true_iff.mpr same)) nofun
    | reference | paren | bounds | other => exact .referent lifetime mutable nofun nofun
  | path | slice | paren | bounds | other => exact .value nofun

end TypeExpr

/-! ### Names of arguments -/

namespace Argument

theorem nameAt_injective {i j : Nat} (same : nameAt i = nameAt j) : i = j := by
  have digits : Nat.toDigits 10 i = Nat.toDigits 10 j := by
    have same := (String.append_right_inj "__arg").mp same
    rw [Nat.toString_eq_ofList_toDigits, Nat.toString_eq_ofList_toDigits] at same
    exact String.ofList_injective same
  rw [← Nat.ofDigitChars_ten_toDigits (n := i), digits, Nat.ofDigitChars_ten_toDigits]

/-- The names of so many arguments. -/
def names (count : Nat) : List String :=
  (List.range count).map nameAt

theorem length_names (count : Nat) : (names count).length = count := by
  rw [names, List.length_map, List.length_range]

theorem nodup_names (count : Nat) : (names count).Nodup :=
  List.nodup_range.map fun _ _ => nameAt_injective

/-- What is made of arguments at their places is named by the places. -/
theorem map_mapIdx_eq_names {α : Type} (make : Nat → Argument → α) (name : α → String)
    (named : ∀ place a, name (make place a) = nameAt place) (args : List Argument) :
    (args.mapIdx make).map name = names args.length := by
  apply List.ext_getElem
  · rw [List.length_map, List.length_mapIdx, length_names]
  · intro place _ _
    simp only [List.getElem_map, List.getElem_mapIdx, named, names, List.getElem_range]

end Argument

/-! ### From stubs to methods -/

section Values

variable {α : Type} {values : List α}

/-- What a stub encodes, in order, where its arguments have the given values; none for a name that
no argument has. -/
def MethodStub.encoded (s : MethodStub) (values : List α) : List (Option α) :=
  s.encodes.map fun name => ((s.args.map (·.name)).zip values).lookup name

namespace MethodHandler

/-- What the variables of a handler stand for, the latest first, once arguments are decoded by their
types: each takes the next value, or null where none is left. -/
def assigned (decode : TypeExpr → Value → α) :
    List DecodedArgument → List Value → List (String × α) → List (String × α)
  | [], _, before => before
  | d :: ds, values, before =>
    assigned decode ds values.tail ((d.name, decode d.owned (values.headD .null)) :: before)

/-- What a handler passes on to its method, in order, out of the values that it is given; none for a
name that stands for nothing. -/
def handed (h : MethodHandler) (decode : TypeExpr → Value → α) (values : List Value) :
    List (Option α) :=
  (h.passes.map (·.name)).map fun name => (assigned decode h.decodes values []).lookup name

theorem assigned_eq {decode : TypeExpr → Value → α} {decodes : List DecodedArgument}
    {values : List Value} (length : decodes.length = values.length) (before : List (String × α)) :
    assigned decode decodes values before = ((decodes.map (·.name)).zip
      (List.zipWith (fun d v => decode d.owned v) decodes values)).reverse ++ before := by
  induction decodes generalizing values before with
  | nil => rfl
  | cons d decodes ih =>
    cases values with
    | nil => cases length
    | cons v values =>
      rw [assigned, List.tail_cons, List.headD_cons, ih (Nat.succ.inj length), List.map_cons,
        List.zipWith_cons_cons, List.zip_cons_cons, List.reverse_cons, List.append_assoc]
      rfl

end MethodHandler

theorem lookup_of_mem {found : List (String × α)} {name : String} {v : α}
    (distinct : (found.map (·.1)).Nodup) (mem : (name, v) ∈ found) :
    found.lookup name = some v := by
  obtain ⟨before, after, rfl⟩ := List.append_of_mem mem
  rw [List.map_append, List.map_cons] at distinct
  refine List.lookup_eq_some_iff.mpr ⟨before, after, rfl, fun other hb => bne_iff_ne.mpr ?_⟩
  exact ((List.nodup_append.mp distinct).2.2 _ (List.mem_map_of_mem hb) _ List.mem_cons_self).symm

/-- Looked up one after the other, names give the values that stand beside them. -/
theorem map_lookup {names : List String} {found : List (String × α)}
    (length : values.length = names.length)
    (there : ∀ entry ∈ names.zip values, found.lookup entry.1 = some entry.2) :
    names.map (fun name => found.lookup name) = values.map some := by
  induction names generalizing values with
  | nil =>
    rw [List.length_eq_zero_iff.mp length]
    rfl
  | cons name names ih =>
    cases values with
    | nil => cases length
    | cons v values =>
      obtain ⟨first, rest⟩ := List.forall_mem_cons.mp there
      rw [List.map_cons, List.map_cons, first, ih (Nat.succ.inj length) rest]

/-- The names of arguments give the values beside them, whichever of equal names would count. -/
theorem map_lookup_names {found : List (String × α)} {count : Nat} (length : values.length = count)
    (same : found.Perm ((Argument.names count).zip values)) :
    (Argument.names count).map (fun name => found.lookup name) = values.map some := by
  have length : values.length = (Argument.names count).length :=
    length.trans (Argument.length_names count).symm
  have keys : (found.map (·.1)).Nodup := by
    rw [(same.map (·.1)).nodup_iff, List.map_fst_zip (Nat.le_of_eq length.symm)]
    exact Argument.nodup_names count
  exact map_lookup length fun entry mem => lookup_of_mem keys (same.mem_iff.mpr mem)

namespace Method

theorem names_args_stub (method : Method) (place : Nat) :
    (method.stub place).args.map (·.name) = Argument.names method.args.length :=
  Argument.map_mapIdx_eq_names Argument.ofStub (·.name) (fun _ _ => rfl) method.args

theorem encodes_stub (method : Method) (place : Nat) :
    (method.stub place).encodes = Argument.names method.args.length := by
  rw [← List.map_id (method.stub place).encodes]
  exact Argument.map_mapIdx_eq_names (fun place _ => Argument.nameAt place) id (fun _ _ => rfl)
    method.args

theorem names_decodes_handler (method : Method) (place : Nat) :
    (method.handler place).decodes.map (·.name) = Argument.names method.args.length :=
  Argument.map_mapIdx_eq_names Argument.decoded (·.name) (fun _ _ => rfl) method.args

theorem names_passes_handler (method : Method) (place : Nat) :
    (method.handler place).passes.map (·.name) = Argument.names method.args.length :=
  Argument.map_mapIdx_eq_names Argument.passed (·.name) (fun _ _ => rfl) method.args

/-- A stub encodes all of its arguments in their order. -/
theorem encoded_stub (length : values.length = method.args.length) :
    (method.stub place).encoded values = values.map some := by
  rw [MethodStub.encoded, names_args_stub, encodes_stub]
  exact map_lookup_names length (.refl _)

/-- A handler decodes all values that it is given and passes them on in their order. -/
theorem handed_handler (decode : TypeExpr → Value → α) {values : List Value}
    (length : values.length = method.args.length) :
    (method.handler place).handed decode values =
      (List.zipWith (fun d v => decode d.owned v) (method.handler place).decodes values).map
        some := by
  have size : (method.handler place).decodes.length = values.length :=
    List.length_mapIdx.trans length.symm
  rw [MethodHandler.handed, names_passes_handler, MethodHandler.assigned_eq size,
    names_decodes_handler, List.append_nil]
  refine map_lookup_names ?_ (List.reverse_perm _)
  rw [List.length_zipWith, size, Nat.min_self, length]

end Method

end Values

/-! ### Requests and notifications -/

/-- A notification that is to return a future has no mapping. -/
theorem resolve_of_future {entry : MethodDescriptor} (notification : entry.kind = .notification)
    (future : entry.returnsFuture = true) (service : ServiceDescriptor) :
    ∃ error, MethodMapping.resolve service entry = .error error := by
  have found : ∃ reason, MethodMapping.invalid? entry = some reason := by
    simp only [MethodMapping.invalid?]
    split
    · exact ⟨_, rfl⟩
    · split
      · exact ⟨_, rfl⟩
      · exact ⟨_, if_pos ⟨notification, future⟩⟩
  obtain ⟨reason, invalid⟩ := found
  rw [MethodMapping.resolve, invalid]
  exact ⟨_, rfl⟩

namespace Method

theorem kind_eq_notification_iff :
    method.kind = .notification ↔ method.options.isNotification = true := by
  rw [kind]
  cases method.options.isNotification <;> decide

theorem kind_of_sends_notification
    (sync : method.shape = .sync → method.options.isNotification = true)
    (sends : method.sends = .notification) : method.kind = .notification := by
  cases shape : method.shape with
  | async => rwa [Method.sends, shape] at sends
  | future =>
    rw [Method.sends, shape] at sends
    cases sends
  | sync => exact kind_eq_notification_iff.mpr (sync shape)

/-- A request is sent for a request, and for a notification that is to return a future. -/
theorem kind_of_sends_request (sends : method.sends = .request) :
    method.kind = .request ∨ method.kind = .notification ∧ method.shape = .future := by
  cases shape : method.shape with
  | async =>
    rw [Method.sends, shape] at sends
    exact .inl sends
  | future =>
    cases kind : method.kind with
    | request => exact .inl rfl
    | notification => exact .inr ⟨rfl, rfl⟩
  | sync =>
    rw [Method.sends, shape] at sends
    cases sends

end Method

/-! ### Place by place -/

/-- What is made of items at their places is related to them if it is so at each place. -/
theorem forall₂_mapIdx {α β : Type} {r : α → β → Prop} (make : Nat → α → β)
    (each : ∀ place x, r x (make place x)) (xs : List α) : List.Forall₂ r xs (xs.mapIdx make) := by
  induction xs generalizing make with
  | nil => exact .nil
  | cons x xs ih =>
    rw [List.mapIdx_cons]
    exact .cons (each 0 x) (ih (fun place => make (place + 1)) fun place => each (place + 1))

/-- A descriptor, a handler and a stub have the arguments of a method, in their order. -/
structure Carries (args : List Argument) (entry : MethodDescriptor) (handler : MethodHandler)
    (stub : MethodStub) : Prop where
  params : entry.params = args.map (·.name)
  takes : List.Forall₂ (fun a s => s.type = a.type) args stub.args
  encodes : ∀ {α : Type} (values : List α), values.length = args.length →
    stub.encoded values = values.map some
  decodes : List.Forall₂ (fun a d => a.type.OwnedForm d.owned) args handler.decodes
  passes : List.Forall₂ (fun a p => p.byReference = true ↔
    ∃ lifetime mutable referent, a.type = .reference lifetime mutable referent) args handler.passes
  hands : ∀ {α : Type} (decode : TypeExpr → Value → α) values, values.length = args.length →
    handler.handed decode values =
      (List.zipWith (fun d v => decode d.owned v) handler.decodes values).map some

/-- The options of a method are those of its descriptor. -/
structure MethodOptions.Describe (o : MethodOptions) (entry : MethodDescriptor) : Prop where
  name : entry.name = o.name
  packing : entry.packing = o.packing
  timeoutMs : entry.timeoutMs = o.timeoutMs
  notification : entry.kind = .notification ↔ o.isNotification = true

/-- A descriptor, a handler and a stub belong to the method of a trait at a place. -/
structure BelongTo (place : Nat) (m : TraitMethod) (entry : MethodDescriptor)
    (handler : MethodHandler) (stub : MethodStub) : Prop where
  describes : entry.ident = m.signature.ident
  calls : handler.ident = m.signature.ident
  offers : stub.ident = m.signature.ident
  options : ∃ o, MethodOptions.ofAttributes m.attributes = .ok o ∧ o.Describe entry
  output : m.signature.output = some stub.output
  /-- Handler and stub refer to the descriptor at their own place. -/
  resolves : handler.resolves = place
  refersTo : stub.refersTo = place
  arguments : ∃ context args, Declared m.signature.inputs context args ∧ stub.context = context ∧
    Carries args entry handler stub
  notifies : stub.via = .notification → entry.kind = .notification
  requests : stub.via = .request → entry.kind = .request ∨
    ∀ service, ∃ error, MethodMapping.resolve service entry = .error error

/-- There is one descriptor, one handler and one stub for each method of a trait, in their order, and
the stubs are those of the trait that comes out. -/
structure Expansion.Follows (e : Expansion) (t : TraitDecl) : Prop where
  descriptors : e.service.methods.length = t.items.length
  handlers : e.handlers.length = t.items.length
  stubs : e.stubs.length = t.items.length
  each : ∀ place item, t.items[place]? = some item → ∃ m entry handler stub,
    item = .method m ∧ e.service.methods[place]? = some entry ∧
      e.handlers[place]? = some handler ∧ e.stubs[place]? = some stub ∧
      BelongTo place m entry handler stub
  implements : List.Forall₂ (fun (kept : TraitEntry) (stub : MethodStub) =>
    stub.ident = kept.ident ∧ stub.output = kept.output) e.trait e.stubs

theorem carries_of_method (method : Method) (place : Nat) :
    Carries method.args (method.descriptor place) (method.handler place) (method.stub place) where
  params := rfl
  takes := forall₂_mapIdx Argument.ofStub (fun _ _ => rfl) method.args
  encodes _ := Method.encoded_stub
  decodes := forall₂_mapIdx Argument.decoded (fun _ a => a.type.ownedForm_owned) method.args
  passes :=
    forall₂_mapIdx Argument.passed (fun _ _ => TypeExpr.isReference_eq_true_iff) method.args
  hands decode _ := Method.handed_handler decode

theorem describe_of_method (method : Method) (place : Nat) :
    method.options.Describe (method.descriptor place) where
  name := rfl
  packing := rfl
  timeoutMs := rfl
  notification := Method.kind_eq_notification_iff

theorem TraitMethod.ReadAs.belongTo (read : m.ReadAs method) (place : Nat) :
    BelongTo place m (method.descriptor place) (method.handler place) (method.stub place) where
  describes := read.ident
  calls := read.ident
  offers := read.ident
  options := ⟨method.options, read.options, describe_of_method method place⟩
  output := read.output
  resolves := rfl
  refersTo := rfl
  arguments := ⟨method.context, method.args, read.inputs, rfl, carries_of_method method place⟩
  notifies := Method.kind_of_sends_notification read.isNotification_of_sync
  requests sends := by
    rcases Method.kind_of_sends_request sends with request | ⟨notification, future⟩
    · exact .inl request
    · have returns : (method.descriptor place).returnsFuture = true := by
        rw [Method.descriptor, future]
        rfl
      exact .inr fun service => resolve_of_future notification returns service

theorem exists_methods_of_expandTrait (h : expandTrait dependency options t = .ok e) :
    ∃ methods, List.Forall₂ (fun item method => readMethodOf item = .ok method) t.items methods ∧
      e.service.methods = methods.mapIdx Method.descriptor ∧ e.trait = methods.map Method.entry ∧
      e.handlers = methods.mapIdx Method.handler ∧ e.stubs = methods.mapIdx Method.stub := by
  obtain ⟨staticName, -, h⟩ := exists_of_bind_eq_ok h
  obtain ⟨methods, read, h⟩ := exists_of_bind_eq_ok h
  obtain rfl := Except.ok.inj h
  exact ⟨methods, mapM_eq_ok_iff.mp read, rfl, rfl, rfl, rfl⟩

theorem follows_of_expandTrait (h : expandTrait dependency options t = .ok e) : e.Follows t := by
  obtain ⟨methods, read, descriptors, kept, handlers, stubs⟩ := exists_methods_of_expandTrait h
  have count : methods.length = t.items.length := read.length_eq.symm
  refine ⟨?_, ?_, ?_, ?_, ?_⟩
  · rw [descriptors, List.length_mapIdx, count]
  · rw [handlers, List.length_mapIdx, count]
  · rw [stubs, List.length_mapIdx, count]
  · -- The method at a place is the one that was read off the item there.
    intro place item there
    obtain ⟨bound, rfl⟩ := List.getElem?_eq_some_iff.mp there
    have here : methods[place]? = some methods[place] := List.getElem?_eq_getElem (count ▸ bound)
    obtain ⟨m, same, readAs⟩ := exists_readAs (read.get bound (count ▸ bound))
    refine ⟨m, _, _, _, same, ?_, ?_, ?_, readAs.belongTo place⟩
    · rw [descriptors, List.getElem?_mapIdx, here]
      rfl
    · rw [handlers, List.getElem?_mapIdx, here]
      rfl
    · rw [stubs, List.getElem?_mapIdx, here]
      rfl
  · rw [kept, stubs, List.forall₂_map_left_iff]
    exact forall₂_mapIdx Method.stub (fun _ _ => ⟨rfl, rfl⟩) methods

/-- A type by its name, perhaps around another one. -/
def named (name : String) (inside : Option String) : TypeExpr :=
  .path "" [match inside with
    | none => .plain name
    | some inside => .angled name "" [(.type (.path "" [.plain inside]), false)]]

/-- A method of a service, with arguments after the context. -/
def boardMethod (attributes : List Attribute) (isAsync : Bool) (ident : String)
    (args : List Input) (output : TypeExpr) : TraitItem :=
  let context : TypeExpr := .reference "" false (named "Context" none)
  .method
    { attributes
      signature :=
        { isAsync, ident, isGeneric := false
          inputs := [.receiver true false, .typed (.name "ctx") context] ++ args
          output := some output }
      hasBody := false }

/-- A declaration with a request, a notification, and a notification that is to return a future. -/
def board : TraitDecl where
  ident := "Board"
  items :=
    let notification : Attribute := ⟨"jrpc", .group [.word "notification"], false⟩
    [boardMethod [] true "post"
        [.typed (.name "title") (.reference "" false (named "str" none)),
          .typed .wild (.reference "" false (.slice (named "u8" none))),
          .typed (.name "id") (named "u64" none)]
        (named "Result" (some "u64")),
      boardMethod [notification] false "touch" [.typed (.name "id") (named "u64" none)]
        (named "Result" (some "u64")),
      boardMethod [notification] false "wait" [] (named "ResponseFuture" (some "u64"))]

theorem follows_of_expandTrait_board :
    ∃ e, expandTrait none {} board = .ok e ∧ e.Follows board ∧
      e.stubs.map (·.via) = [.request, .notification, .request] :=
  ⟨_, rfl, follows_of_expandTrait rfl, rfl⟩

end DuplexRpc.Declaration

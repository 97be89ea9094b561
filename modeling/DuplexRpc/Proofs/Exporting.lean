import DuplexRpc.Proofs.Enrolment
import DuplexRpc.Proofs.Resolver
import DuplexRpc.Sample.Services

/-! An export that fails stops at the first method that cannot be registered. The methods declared
before it stay registered, and nothing else is. -/

namespace DuplexRpc.Registry

variable {r r' r₁ : Registry} {service : ServiceDescriptor} {m : ServiceMethod}
  {ms before : List ServiceMethod} {mapping : MethodMapping} {e : RpcError} {notes : List Note}

/-- The mapping that a method has at a registry: the one that is kept for it, or else the one of the
service. -/
def mappingOf (r : Registry) (service : ServiceDescriptor) (m : ServiceMethod) :
    Except RpcError MethodMapping :=
  (r.resolve service m.descriptor).1

/-- The handlers of methods, each under the mapping that it has at a registry. -/
def handlersOf (r : Registry) (service : ServiceDescriptor) (ms : List ServiceMethod) :
    List Enrolment :=
  ms.filterMap fun m => (r.mappingOf service m).toOption.map (Enrolment.ofMapping · m.run)

/-- No two methods are declared at one place. -/
def Distinct (ms : List ServiceMethod) : Prop :=
  (ms.map (·.descriptor.place)).Nodup

/-- The handlers of two registries are the same. -/
structure SameHandlers (r r' : Registry) : Prop where
  requests : ∀ name, r'.requestHandler? name = r.requestHandler? name
  notifications : ∀ name, r'.notificationHandlers name = r.notificationHandlers name

/-- Methods are registered, each under its mapping: those for requests take names that were free,
those for notifications come after what listened before, and nothing else changes. -/
structure Exposes (r : Registry) (service : ServiceDescriptor) (ms : List ServiceMethod)
    (r' : Registry) : Prop where
  mapped : ∀ m ∈ ms, ∃ mapping, r.mappingOf service m = .ok mapping
  added : r.Extends r' (r.handlersOf service ms)
  free : ∀ name h, .request name h ∈ r.handlersOf service ms → r.requestHandler? name = none
  answers : ∀ name h, .request name h ∈ r.handlersOf service ms → r'.requestHandler? name = some h

/-- A method cannot be registered: it has no mapping in the service, or it is one for requests and
its name is taken, at the latest by the methods declared before it. -/
inductive Refuses (r : Registry) (service : ServiceDescriptor) (m : ServiceMethod)
    (r' : Registry) : RpcError → Prop
  | invalid {e : RpcError} (unmapped : MethodMapping.resolve service m.descriptor = .error e) :
      Refuses r service m r' e
  | duplicate {mapping : MethodMapping} (mapped : r.mappingOf service m = .ok mapping)
      (request : mapping.kind = .request)
      (taken : (r'.requestHandler? mapping.name).isSome = true) :
      Refuses r service m r'
        { kind := .duplicateHandler
          message := s!"request handler already registered: {mapping.name}" }

/-! ### Mappings at a registry -/

theorem mappingOf_eq (r : Registry) (service : ServiceDescriptor) (m : ServiceMethod) :
    r.mappingOf service m = ((r.resolver.find? m.descriptor).map .ok).getD
      (MethodMapping.resolve service m.descriptor) :=
  MappingResolver.fst_resolve r.resolver service m.descriptor

theorem unmapped_of_mappingOf (unmapped : r.mappingOf service m = .error e) :
    MethodMapping.resolve service m.descriptor = .error e := by
  rw [mappingOf_eq] at unmapped
  cases kept : r.resolver.find? m.descriptor with
  | some mapping =>
    rw [kept] at unmapped
    cases unmapped
  | none =>
    rw [kept] at unmapped
    exact unmapped

/-- To settle the mapping of a method settles that of no method at another place. -/
theorem mappingOf_of_ne {other : ServiceMethod}
    (resolver : r₁.resolver = (r.resolve service m.descriptor).2.resolver)
    (ne : other.descriptor.place ≠ m.descriptor.place) :
    r₁.mappingOf service other = r.mappingOf service other := by
  have same : (r.resolve service m.descriptor).2.resolver.find? other.descriptor =
      r.resolver.find? other.descriptor := MappingResolver.find?_resolve_of_ne ne
  rw [mappingOf_eq, mappingOf_eq, resolver, same]

theorem resolver_exportMethod (r : Registry) (mapping : MethodMapping)
    (f : Context → List Value → Script) :
    (r.exportMethod mapping f).2.1.resolver = r.resolver := by
  rw [exportMethod]
  cases mapping.kind with
  | request =>
    simp only [registerRequest, addRequest]
    cases r.requestHandler? mapping.name <;> rfl
  | notification => rfl

theorem handlersOf_append (ms ms' : List ServiceMethod) :
    r.handlersOf service (ms ++ ms') = r.handlersOf service ms ++ r.handlersOf service ms' :=
  List.filterMap_append

theorem handlersOf_singleton (mapped : r.mappingOf service m = .ok mapping) :
    r.handlersOf service [m] = [.ofMapping mapping m.run] := by
  rw [handlersOf, List.filterMap_cons, mapped]
  rfl

theorem handlersOf_congr (same : ∀ m ∈ ms, r₁.mappingOf service m = r.mappingOf service m) :
    r₁.handlersOf service ms = r.handlersOf service ms := by
  induction ms with
  | nil => rfl
  | cons m ms ih =>
    have first : r₁.handlersOf service [m] = r.handlersOf service [m] := by
      rw [handlersOf, handlersOf, List.filterMap_cons, List.filterMap_cons,
        same m List.mem_cons_self]
      rfl
    rw [← List.singleton_append, handlersOf_append, handlersOf_append, first,
      ih fun m mem => same m (List.mem_cons_of_mem _ mem)]

/-! ### One method -/

theorem exposes_nil (requests : r'.requests = r.requests)
    (notifications : r'.notifications = r.notifications) : r.Exposes service [] r' where
  mapped := nofun
  added := extends_of_same requests notifications
  free := nofun
  answers := nofun

/-- A method and then others: what was settled about the first says nothing about these. -/
theorem Exposes.cons (h : r.Exposes service [m] r₁) (h' : r₁.Exposes service ms r')
    (same : ∀ m ∈ ms, r₁.mappingOf service m = r.mappingOf service m) :
    r.Exposes service (m :: ms) r' := by
  have handlers : r.handlersOf service (m :: ms) =
      r.handlersOf service [m] ++ r₁.handlersOf service ms := by
    rw [handlersOf_congr same, ← handlersOf_append, List.singleton_append]
  refine ⟨?mapped, ?added, ?free, ?answers⟩
  case mapped =>
    intro other mem
    cases mem with
    | head => exact h.mapped m (List.mem_singleton_self m)
    | tail _ mem =>
      rw [← same other mem]
      exact h'.mapped other mem
  case added =>
    rw [handlers]
    exact h.added.trans h'.added
  case free =>
    intro name handler mem
    rw [handlers] at mem
    rcases List.mem_append.mp mem with mem | mem
    · exact h.free name handler mem
    · have free := h'.free name handler mem
      rw [h.added.handler, Option.or_eq_none_iff] at free
      exact free.1
  case answers =>
    intro name handler mem
    rw [handlers] at mem
    rcases List.mem_append.mp mem with mem | mem
    · rw [h'.added.handler, h.answers name handler mem, Option.some_or]
    · exact h'.answers name handler mem

/-- A handler for requests is refused, and nothing changes, or its name was free. -/
theorem exportMethod_cases (r : Registry) (mapping : MethodMapping)
    (f : Context → List Value → Script) :
    (mapping.kind = .request ∧ (r.requestHandler? mapping.name).isSome = true ∧
        r.exportMethod mapping f =
          (.error
            { kind := .duplicateHandler
              message := s!"request handler already registered: {mapping.name}" }, r, [])) ∨
      (∃ r₁ notes, r.exportMethod mapping f = (.ok (), r₁, notes)) ∧
        (mapping.kind = .request → r.requestHandler? mapping.name = none) := by
  cases kind : mapping.kind with
  | notification =>
    rw [exportMethod, kind]
    exact .inr ⟨⟨_, _, rfl⟩, by simp⟩
  | request =>
    cases found : r.requestHandler? mapping.name with
    | some _ =>
      left
      simp [exportMethod, kind, registerRequest, addRequest, found]
    | none =>
      right
      simp [exportMethod, kind, registerRequest, addRequest, found]

/-- A mapping whose name is free is the one that answers. -/
theorem exposes_exportMethod (mapped : r.mappingOf service m = .ok mapping)
    (free : mapping.kind = .request → r.requestHandler? mapping.name = none) :
    r.Exposes service [m]
      ((r.resolve service m.descriptor).2.exportMethod mapping m.run).2.1 := by
  have resolved : r.Extends (r.resolve service m.descriptor).2 [] := extends_of_same rfl rfl
  have added := resolved.trans (extends_exportMethod _ mapping m.run)
  have request {name : String} {h : Handler}
      (mem : .request name h ∈ r.handlersOf service [m]) :
      mapping.kind = .request ∧ mapping.name = name ∧ .ofMapping mapping m.run = h := by
    rw [handlersOf_singleton mapped, List.mem_singleton, Enrolment.ofMapping] at mem
    cases kind : mapping.kind with
    | request =>
      rw [kind] at mem
      cases mem
      exact ⟨rfl, rfl, rfl⟩
    | notification =>
      rw [kind] at mem
      cases mem
  refine ⟨?mapped, ?added, ?free, ?answers⟩
  case mapped =>
    intro other mem
    rw [List.mem_singleton.mp mem]
    exact ⟨mapping, mapped⟩
  case added =>
    rw [handlersOf_singleton mapped]
    exact added
  case free =>
    intro name h mem
    obtain ⟨kind, rfl, -⟩ := request mem
    exact free kind
  case answers =>
    intro name h mem
    obtain ⟨kind, rfl, rfl⟩ := request mem
    rw [added.handler, free kind, List.nil_append, Enrolment.ofMapping, kind, Option.none_or]
    exact List.findSome?_singleton.trans (if_pos rfl)

/-! ### One method after the other -/

/-- The first of several methods is refused, and the others are not reached, or it is registered,
and the others come after it. -/
theorem exportMethods_cons_cases (r : Registry) (service : ServiceDescriptor) (m : ServiceMethod)
    (ms : List ServiceMethod) :
    (∃ e r₁, r.exportMethods service (m :: ms) = (.error e, r₁, []) ∧
        r.Exposes service [] r₁ ∧ r.Refuses service m r₁ e) ∨
      ∃ r₁ notes, r.Exposes service [m] r₁ ∧
        r₁.resolver = (r.resolve service m.descriptor).2.resolver ∧
        r.exportMethods service (m :: ms) =
          ((r₁.exportMethods service ms).1, (r₁.exportMethods service ms).2.1,
            notes ++ (r₁.exportMethods service ms).2.2) := by
  have settled : r.resolve service m.descriptor =
      (r.mappingOf service m, (r.resolve service m.descriptor).2) := rfl
  rw [exportMethods, settled]
  cases mapped : r.mappingOf service m with
  | error e =>
    exact .inl ⟨e, _, rfl, exposes_nil rfl rfl, .invalid (unmapped_of_mappingOf mapped)⟩
  | ok mapping =>
    rcases exportMethod_cases (r.resolve service m.descriptor).2 mapping m.run with
      ⟨kind, taken, refused⟩ | ⟨⟨r₁, notes, registered⟩, free⟩
    · simp only [refused]
      exact .inl ⟨_, _, rfl, exposes_nil rfl rfl, .duplicate mapped kind taken⟩
    · have exposed := exposes_exportMethod mapped free
      have kept := resolver_exportMethod (r.resolve service m.descriptor).2 mapping m.run
      rw [registered] at exposed kept
      refine .inr ⟨r₁, notes, exposed, kept, ?_⟩
      simp only [registered]

/-- Why the export of methods fails. -/
theorem exportMethods_error (distinct : Distinct ms)
    (failed : r.exportMethods service ms = (.error e, r', notes)) :
    ∃ before m after, ms = before ++ m :: after ∧ r.Exposes service before r' ∧
      r.Refuses service m r' e := by
  induction ms generalizing r notes with
  | nil => cases failed
  | cons m ms ih =>
    rcases exportMethods_cons_cases r service m ms with
      ⟨e₁, r₁, refused, nothing, why⟩ | ⟨r₁, done, exposed, kept, rest⟩
    · rw [refused] at failed
      cases failed
      exact ⟨[], m, ms, rfl, nothing, why⟩
    · obtain ⟨first, distinct⟩ := List.nodup_cons.mp distinct
      have same : ∀ other ∈ ms, r₁.mappingOf service other = r.mappingOf service other := by
        intro other mem
        exact mappingOf_of_ne kept fun one => first (List.mem_map.mpr ⟨other, mem, one⟩)
      rw [rest] at failed
      have failed : r₁.exportMethods service ms =
          (.error e, r', (r₁.exportMethods service ms).2.2) := by
        injection failed with outcome tables
        injection tables with tables
        rw [← outcome, ← tables]
      obtain ⟨before, stuck, after, rfl, exposes, why⟩ := ih distinct failed
      have others : ∀ other ∈ before, r₁.mappingOf service other = r.mappingOf service other :=
        fun other mem => same other (List.mem_append_left _ mem)
      refine ⟨m :: before, stuck, after, rfl, exposed.cons exposes others, ?_⟩
      cases why with
      | invalid unmapped => exact .invalid unmapped
      | duplicate mapped request taken =>
        rw [same stuck (by simp)] at mapped
        exact .duplicate mapped request taken

/-- Nothing is as before once a method was registered. -/
theorem Exposes.sameHandlers_iff (h : r.Exposes service ms r') :
    r.SameHandlers r' ↔ ms = [] := by
  constructor
  · intro same
    cases ms with
    | nil => rfl
    | cons m ms =>
      obtain ⟨mapping, mapped⟩ := h.mapped m List.mem_cons_self
      have mem : .ofMapping mapping m.run ∈ r.handlersOf service (m :: ms) :=
        List.mem_filterMap.mpr ⟨m, List.mem_cons_self, by rw [mapped]; rfl⟩
      rw [Enrolment.ofMapping] at mem
      cases kind : mapping.kind with
      | request =>
        rw [kind] at mem
        have now := h.answers _ _ mem
        rw [same.requests, h.free _ _ mem] at now
        cases now
      | notification =>
        rw [kind] at mem
        have heard := h.added.listeners mapping.name
        rw [same.notifications, List.self_eq_append_right] at heard
        have none := List.filterMap_eq_nil_iff.mp heard _ mem
        simp at none
  · rintro rfl
    refine ⟨fun name => ?_, fun name => ?_⟩
    · exact (h.added.handler name).trans (Option.or_none ..)
    · exact (h.added.listeners name).trans (List.append_nil _)

/-- A service whose export fails is registered up to the first method that cannot be. So nothing is
left behind only where this is its first method. -/
theorem exportService_error {s : Service} (distinct : Distinct s.methods)
    (failed : r.exportService s = (.error e, r', notes)) :
    ∃ before m after, s.methods = before ++ m :: after ∧ r.Exposes s.descriptor before r' ∧
      r.Refuses s.descriptor m r' e ∧ (r.SameHandlers r' ↔ before = []) := by
  obtain ⟨before, m, after, methods, exposes, why⟩ := exportMethods_error distinct failed
  exact ⟨before, m, after, methods, exposes, why, exposes.sameHandlers_iff⟩

/-- A service whose notification comes before its request. -/
def clock : Service where
  name := "Clock"
  methods :=
    [Sample.event { place := 0, ident := "tick", resultType := "()" } [] fun _ _ =>
        Sample.finished,
      Sample.method { place := 1, ident := "now", resultType := "i64" } [] "i64" fun _ _ =>
        Sample.giveInt 0]

/-- To export it once more is refused at the request, after the notification. -/
theorem exportService_error_again :
    Distinct clock.methods ∧
      ∃ e r' notes, (({} : Registry).exportService clock).2.1.exportService clock =
          (.error e, r', notes) ∧
        (∃ before m after, clock.methods = before ++ m :: after ∧
          (({} : Registry).exportService clock).2.1.Exposes clock.descriptor before r' ∧
          (({} : Registry).exportService clock).2.1.Refuses clock.descriptor m r' e ∧
          ((({} : Registry).exportService clock).2.1.SameHandlers r' ↔ before = [])) ∧
        (r'.notificationHandlers "tick").length = 2 := by
  have distinct : Distinct clock.methods := by
    unfold Distinct
    decide
  exact ⟨distinct, _, _, _, rfl, exportService_error distinct rfl, rfl⟩

/-- A service whose second method has no mapping leaves its first one behind. -/
theorem export_leaves_first_method :
    (({} : Registry).exportService Sample.badSingle).1.isOk = false ∧
      ¬ ({} : Registry).SameHandlers (({} : Registry).exportService Sample.badSingle).2.1 := by
  refine ⟨rfl, fun same => ?_⟩
  have good := congrArg Option.isSome (same.requests "good")
  exact absurd good (by decide)

end DuplexRpc.Registry

import DuplexRpc.Proofs.Fields
import DuplexRpc.Service

/-! The history of the registrations at a registry decides what it holds: of the handlers for the
requests of a method the first, and of those for its notifications all, in their order. -/

namespace DuplexRpc

/-- A handler that someone registers, in vain if it is one for requests and not the first. -/
inductive Enrolment where
  | request (method : String) (h : Handler)
  | notification (method : String) (h : Handler)

namespace Enrolment

/-- The handlers for the notifications of a method. -/
def listeners (method : String) (roll : List Enrolment) : List Handler :=
  roll.filterMap fun
    | .notification name h => if name = method then some h else none
    | .request _ _ => none

/-- The first handler for the requests of a method. -/
def handler? (method : String) (roll : List Enrolment) : Option Handler :=
  roll.findSome? fun
    | .request name h => if name = method then some h else none
    | .notification _ _ => none

/-- The handler of a declared method. -/
def ofMapping (m : MethodMapping) (f : Context → List Value → Script) : Enrolment :=
  match m.kind with
  | .request => .request m.name (.ofMapping m f)
  | .notification => .notification m.name (.ofMapping m f)

variable {method : String} {roll more : List Enrolment}

theorem listeners_append :
    listeners method (roll ++ more) = listeners method roll ++ listeners method more :=
  List.filterMap_append

theorem handler?_append :
    handler? method (roll ++ more) = (handler? method roll).or (handler? method more) :=
  List.findSome?_append

end Enrolment

namespace Registry

variable {r : Registry} {roll : List Enrolment}

/-- The handlers of the methods of a service, up to the first that cannot be registered. -/
def enrolsMethods (r : Registry) (service : ServiceDescriptor) : List ServiceMethod → List Enrolment
  | [] => []
  | m :: ms =>
    match r.resolve service m.descriptor with
    | (.error _, _) => []
    | (.ok mapping, r) =>
      .ofMapping mapping m.run ::
        match r.exportMethod mapping m.run with
        | (.error _, _, _) => []
        | (.ok (), r, _) => enrolsMethods r service ms

/-- The handlers that come with an entry. -/
def enrols (r : Registry) : Entry → List Enrolment
  | .request method h => [.request method h]
  | .notification method h => [.notification method h]
  | .service s => r.enrolsMethods s.descriptor s.methods

/-- A registry holds what was registered. -/
structure Keeps (r : Registry) (roll : List Enrolment) : Prop where
  listeners : ∀ method, r.notificationHandlers method = Enrolment.listeners method roll
  handler : ∀ method, r.requestHandler? method = Enrolment.handler? method roll

theorem keeps_empty : Keeps {} [] :=
  ⟨fun _ => rfl, fun _ => rfl⟩

/-- Only the handlers count. -/
theorem Keeps.of_same {r' : Registry} (h : r.Keeps roll) (requests : r'.requests = r.requests)
    (notifications : r'.notifications = r.notifications) : r'.Keeps roll where
  listeners method := by rw [notificationHandlers, notifications, ← h.listeners, notificationHandlers]
  handler method := by rw [requestHandler?, requests, ← h.handler, requestHandler?]

/-- A registry holds what another one holds and, after that, what was enrolled. -/
structure Extends (r r' : Registry) (roll : List Enrolment) : Prop where
  listeners : ∀ method,
    r'.notificationHandlers method = r.notificationHandlers method ++ Enrolment.listeners method roll
  handler : ∀ method,
    r'.requestHandler? method = (r.requestHandler? method).or (Enrolment.handler? method roll)

theorem extends_of_same {r' : Registry} (requests : r'.requests = r.requests)
    (notifications : r'.notifications = r.notifications) : r.Extends r' [] where
  listeners method := by
    rw [notificationHandlers, notifications]
    exact (List.append_nil _).symm
  handler method := by
    rw [requestHandler?, requests]
    exact (Option.or_none ..).symm

theorem Extends.trans {r₁ r₂ r₃ : Registry} {more : List Enrolment} (h : r₁.Extends r₂ roll)
    (h' : r₂.Extends r₃ more) : r₁.Extends r₃ (roll ++ more) where
  listeners method := by
    rw [h'.listeners, h.listeners, Enrolment.listeners_append, List.append_assoc]
  handler method := by
    rw [h'.handler, h.handler, Enrolment.handler?_append, Option.or_assoc]

theorem Keeps.of_extends {r' : Registry} {more : List Enrolment} (h : r.Keeps roll)
    (h' : r.Extends r' more) : r'.Keeps (roll ++ more) where
  listeners method := by rw [h'.listeners, h.listeners, Enrolment.listeners_append]
  handler method := by rw [h'.handler, h.handler, Enrolment.handler?_append]

theorem extends_registerRequest (r : Registry) (method : String) (g : Handler) :
    r.Extends (r.registerRequest method g).2.1 [.request method g] := by
  have others (name : String) : r.notificationHandlers name =
      r.notificationHandlers name ++ Enrolment.listeners name [.request method g] :=
    (List.append_nil _).symm
  have first (name : String) : Enrolment.handler? name [.request method g] =
      if method = name then some g else none := List.findSome?_singleton
  rw [Registry.registerRequest, addRequest]
  cases found : r.requestHandler? method with
  | some _ =>
    refine ⟨others, fun name => ?_⟩
    rw [first]
    by_cases here : method = name
    · rw [if_pos here, ← here, found]
      rfl
    · rw [if_neg here, Option.or_none]
  | none =>
    refine ⟨others, fun name => ?_⟩
    rw [first]
    by_cases here : method = name
    · rw [if_pos here, ← here, found]
      exact Fields.get?_insert_self
    · rw [if_neg here, Option.or_none]
      exact Fields.get?_insert_of_ne (Ne.symm here)

theorem extends_addNotification (r : Registry) (method : String) (g : Handler) :
    r.Extends (r.addNotification method g) [.notification method g] where
  listeners name := by
    rw [notificationHandlers, Registry.addNotification]
    by_cases here : method = name
    · subst here
      simp only [Enrolment.listeners, List.filterMap_cons, if_true, List.filterMap_nil,
        Fields.get?_insert_self, Option.getD_some]
    · simp only [Enrolment.listeners, List.filterMap_cons, if_neg here, List.filterMap_nil,
        Fields.get?_insert_of_ne (Ne.symm here), List.append_nil]
      rfl
  handler name := (Option.or_none ..).symm

theorem extends_exportMethod (r : Registry) (m : MethodMapping)
    (f : Context → List Value → Script) :
    r.Extends (r.exportMethod m f).2.1 [.ofMapping m f] := by
  rw [Registry.exportMethod, Enrolment.ofMapping]
  cases m.kind with
  | request => exact extends_registerRequest r m.name _
  | notification => exact extends_addNotification r m.name _

theorem extends_exportMethods (r : Registry) (service : ServiceDescriptor)
    (ms : List ServiceMethod) :
    r.Extends (r.exportMethods service ms).2.1 (r.enrolsMethods service ms) := by
  induction ms generalizing r with
  | nil => exact extends_of_same rfl rfl
  | cons m ms ih =>
    have resolved : r.Extends (r.resolve service m.descriptor).2 [] := extends_of_same rfl rfl
    rw [enrolsMethods, Registry.exportMethods]
    generalize r.resolve service m.descriptor = x at resolved
    obtain ⟨err | mapping, r'⟩ := x
    · exact resolved
    · have exported := resolved.trans (r'.extends_exportMethod mapping m.run)
      simp only at exported ⊢
      generalize r'.exportMethod mapping m.run = y at exported
      obtain ⟨err | ⟨⟩, r'', notes⟩ := y
      · exact exported
      · exact exported.trans (ih r'')

theorem extends_register (r : Registry) (entry : Entry) :
    r.Extends (r.register entry).2.1 (r.enrols entry) := by
  cases entry with
  | request method g => exact extends_registerRequest r method g
  | notification method g => exact extends_addNotification r method g
  | service s => exact extends_exportMethods r s.descriptor s.methods

theorem Keeps.register (h : r.Keeps roll) (entry : Entry) :
    (r.register entry).2.1.Keeps (roll ++ r.enrols entry) :=
  h.of_extends (extends_register r entry)

/-! ### The first handler stays -/

theorem requestHandler?_register {name : String} {h : Handler}
    (found : r.requestHandler? name = some h) (entry : Entry) :
    (r.register entry).2.1.requestHandler? name = some h := by
  rw [(extends_register r entry).handler, found, Option.some_or]

/-- A method was exported to the registry, whatever was registered before it and after it. -/
inductive Exports (m : MethodMapping) (f : Context → List Value → Script) : Registry → Prop where
  | method (r : Registry) {r' : Registry} {notes : List Note}
      (exported : r.exportMethod m f = (.ok (), r', notes)) : Exports m f r'
  | later {r : Registry} (entry : Entry) (before : Exports m f r) :
      Exports m f (r.register entry).2.1

theorem Exports.requestHandler? {m : MethodMapping}
    {f : Context → List Value → Script} (exports : r.Exports m f) (kind : m.kind = .request) :
    r.requestHandler? m.name = some (.ofMapping m f) := by
  induction exports with
  | method r exported =>
    rw [exportMethod, kind] at exported
    simp only [registerRequest, addRequest] at exported
    cases taken : r.requestHandler? m.name with
    | some _ =>
      rw [taken] at exported
      cases exported
    | none =>
      rw [taken] at exported
      cases exported
      exact Fields.get?_insert_self
  | later entry before ih => exact requestHandler?_register ih entry

end Registry

end DuplexRpc

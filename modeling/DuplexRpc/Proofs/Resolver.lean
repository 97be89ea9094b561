import DuplexRpc.Mapping.Resolver
import Mathlib.Data.List.Dedup

/-! What a resolver answers over a run: each method has the mapping that it was given first. So a
method that two services share has the name and the timeout of the service that was asked about
first, and nothing else of an answer depends on what was kept. -/

namespace DuplexRpc

namespace MethodMapping

variable {service : ServiceDescriptor} {method : MethodDescriptor} {m : MethodMapping}

/-- The mapping with the name and the timeout that its method has in a service. -/
def under (m : MethodMapping) (service : ServiceDescriptor) (method : MethodDescriptor) :
    MethodMapping :=
  { m with name := nameOf service method, timeout := timeoutOf service method }

/-- Whether a method has a mapping, and all but the name and the timeout, is up to the method. -/
theorem map_under_resolve (accepted : resolve service method = .ok m) (other : ServiceDescriptor) :
    (resolve other method).map (·.under service method) = .ok m := by
  unfold resolve at accepted ⊢
  cases valid : invalid? method with
  | some reason =>
    rw [valid] at accepted
    cases accepted
  | none =>
    rw [valid] at accepted
    cases accepted
    rfl

theorem map_under_self :
    (resolve service method).map (·.under service method) = resolve service method := by
  unfold resolve
  cases invalid? method <;> rfl

theorem isOk_resolve (service other : ServiceDescriptor) (method : MethodDescriptor) :
    (resolve service method).isOk = (resolve other method).isOk := by
  unfold resolve
  cases invalid? method <;> rfl

end MethodMapping

namespace MappingResolver

/-- What a resolver is asked. -/
structure Query where
  service : ServiceDescriptor
  method : MethodDescriptor

/-- The mapping that is asked for, where nothing is kept. -/
def Query.settle (q : Query) : Except RpcError MethodMapping :=
  MethodMapping.resolve q.service q.method

/-- Asks one query after the other. -/
def resolveAll (r : MappingResolver) :
    List Query → List (Except RpcError MethodMapping) × MappingResolver
  | [] => ([], r)
  | q :: qs =>
    let (answer, r) := r.resolve q.service q.method
    let (answers, r) := resolveAll r qs
    (answer :: answers, r)

/-- The first query about the method at a place. -/
def first? (qs : List Query) (place : Nat) : Option Query :=
  qs.find? (·.method.place == place)

/-- The service that was asked about with a method first. -/
def firstService (qs : List Query) (q : Query) : ServiceDescriptor :=
  ((first? qs q.method.place).map (·.service)).getD q.service

/-- No two methods have one place. -/
def Placed (qs : List Query) : Prop :=
  ∀ q ∈ qs, ∀ q' ∈ qs, q.method.place = q'.method.place → q.method = q'.method

variable {r : MappingResolver} {q q₀ : Query} {qs before : List Query} {place : Nat}
  {service : ServiceDescriptor} {method other : MethodDescriptor} {m : MethodMapping}
  {e : RpcError}

/-! ### One call -/

theorem resolve_of_kept (kept : r.find? method = some m) :
    r.resolve service method = (.ok m, r) := by
  rw [resolve, kept]

theorem resolve_of_ok (new : r.find? method = none)
    (settled : MethodMapping.resolve service method = .ok m) :
    r.resolve service method = (.ok m, ⟨r.cache ++ [(method.place, m)]⟩) := by
  simp only [resolve, new, settled]

theorem resolve_of_error (new : r.find? method = none)
    (settled : MethodMapping.resolve service method = .error e) :
    r.resolve service method = (.error e, r) := by
  simp only [resolve, new, settled]

theorem fst_resolve (r : MappingResolver) (service : ServiceDescriptor)
    (method : MethodDescriptor) : (r.resolve service method).1 =
      ((r.find? method).map .ok).getD (MethodMapping.resolve service method) := by
  cases kept : r.find? method with
  | some m =>
    rw [resolve_of_kept kept]
    rfl
  | none =>
    cases settled : MethodMapping.resolve service method with
    | ok m =>
      rw [resolve_of_ok kept settled]
      rfl
    | error e =>
      rw [resolve_of_error kept settled]
      rfl

/-- What is kept about a method says nothing about one at another place. -/
theorem lookup_append_of_ne {place' : Nat} (ne : place' ≠ place) (m : MethodMapping) :
    (r.cache ++ [(place, m)]).lookup place' = r.cache.lookup place' := by
  have none : ([(place, m)] : List (Nat × MethodMapping)).lookup place' = none := by
    rw [List.lookup_eq_none_iff, List.forall_mem_singleton]
    exact bne_iff_ne.mpr ne
  rw [List.lookup_append, none, Option.or_none]

theorem find?_resolve_of_ne (ne : other.place ≠ method.place) :
    (r.resolve service method).2.find? other = r.find? other := by
  cases kept : r.find? method with
  | some m => rw [resolve_of_kept kept]
  | none =>
    cases settled : MethodMapping.resolve service method with
    | ok m =>
      rw [resolve_of_ok kept settled]
      exact lookup_append_of_ne ne m
    | error e => rw [resolve_of_error kept settled]

/-! ### First queries -/

theorem first?_append_of_some (found : first? before place = some q₀) (after : List Query) :
    first? (before ++ after) place = some q₀ := by
  rw [first?, List.find?_append, ← first?, found, Option.some_or]

theorem first?_append_of_none (found : first? before place = none) (after : List Query) :
    first? (before ++ after) place = first? after place := by
  rw [first?, List.find?_append, ← first?, found, Option.none_or, first?]

theorem first?_append_self (found : first? before q.method.place = none) (after : List Query) :
    first? (before ++ q :: after) q.method.place = some q := by
  rw [first?_append_of_none found]
  exact List.find?_cons_of_pos (beq_self_eq_true _)

theorem first?_append_of_ne (other : place ≠ q.method.place) :
    first? (before ++ [q]) place = first? before place := by
  have none : first? [q] place = none := by
    rw [first?, List.find?_singleton, if_neg]
    exact fun same => other (beq_iff_eq.mp same).symm
  rw [first?, List.find?_append, ← first?, ← first?, none, Option.or_none]

theorem place_of_first? (found : first? qs place = some q₀) : q₀.method.place = place := by
  have same := List.find?_some found
  exact beq_iff_eq.mp same

theorem firstService_append (q : Query) (before after : List Query) :
    firstService (before ++ q :: after) q = firstService (before ++ [q]) q := by
  unfold firstService
  cases found : first? before q.method.place with
  | some q₀ => rw [first?_append_of_some found, first?_append_of_some found]
  | none => rw [first?_append_self found, first?_append_self found]

/-! ### One query -/

/-- What is kept after queries is the mapping of the first about each method. -/
structure Remembers (r : MappingResolver) (qs : List Query) : Prop where
  kept : ∀ place, r.cache.lookup place = (first? qs place).bind (·.settle.toOption)
  places : (r.cache.map (·.1)).Nodup

theorem remembers_empty : Remembers {} [] :=
  ⟨fun _ => rfl, List.nodup_nil⟩

/-- A query that nothing is kept of changes nothing of what is kept. -/
theorem Remembers.keep (h : r.Remembers before)
    (same : (first? (before ++ [q]) q.method.place).bind (·.settle.toOption) =
      (first? before q.method.place).bind (·.settle.toOption)) : r.Remembers (before ++ [q]) where
  kept place := by
    rw [h.kept]
    by_cases here : place = q.method.place
    · rw [here, same]
    · rw [first?_append_of_ne here]
  places := h.places

theorem Remembers.enter (h : r.Remembers before) (found : first? before q.method.place = none)
    (settled : q.settle = .ok m) :
    Remembers ⟨r.cache ++ [(q.method.place, m)]⟩ (before ++ [q]) where
  kept place := by
    by_cases here : place = q.method.place
    · rw [here, List.lookup_append, h.kept, found, first?_append_self found, Option.bind_some,
        settled]
      simp [Except.toOption]
    · rw [lookup_append_of_ne here, h.kept, first?_append_of_ne here]
  places := by
    have new : r.cache.lookup q.method.place = none := by rw [h.kept, found, Option.bind_none]
    rw [List.map_append, List.nodup_append]
    refine ⟨h.places, List.nodup_singleton _, fun place kept other here same => ?_⟩
    obtain ⟨entry, mem, rfl⟩ := List.mem_map.mp kept
    have differs := List.lookup_eq_none_iff.mp new entry mem
    rw [same, List.mem_singleton.mp here] at differs
    simp at differs

/-- The answer to a query, and what is kept after it. -/
theorem Remembers.step (h : r.Remembers before) (placed : Placed (before ++ [q])) :
    (r.resolve q.service q.method).1 =
        q.settle.map (·.under (firstService (before ++ [q]) q) q.method) ∧
      (r.resolve q.service q.method).2.Remembers (before ++ [q]) := by
  have kept := h.kept q.method.place
  cases found : first? before q.method.place with
  | none =>
    have service : firstService (before ++ [q]) q = q.service := by
      rw [firstService, first?_append_self found]
      rfl
    have answer : q.settle.map (·.under q.service q.method) = q.settle :=
      MethodMapping.map_under_self
    rw [found, Option.bind_none] at kept
    rw [service, answer]
    cases settled : q.settle with
    | ok m =>
      rw [resolve_of_ok kept settled]
      exact ⟨rfl, h.enter found settled⟩
    | error e =>
      rw [resolve_of_error kept settled]
      refine ⟨rfl, h.keep ?_⟩
      rw [first?_append_self found, found, Option.bind_some, settled]
      rfl
  | some q₀ =>
    have known := first?_append_of_some found [q]
    have service : firstService (before ++ [q]) q = q₀.service := by
      rw [firstService, known]
      rfl
    have mem : q₀ ∈ before ++ [q] := List.mem_append_left _ (List.mem_of_find?_eq_some found)
    have method : q₀.method = q.method :=
      placed q₀ mem q (by simp) (place_of_first? found)
    have again : r.Remembers (before ++ [q]) := h.keep (by rw [known, found])
    rw [found, Option.bind_some] at kept
    rw [service]
    cases settled : q₀.settle with
    | ok m =>
      rw [settled] at kept
      rw [resolve_of_kept kept]
      refine ⟨?_, again⟩
      rw [Query.settle, method] at settled
      exact (MethodMapping.map_under_resolve settled q.service).symm
    | error e =>
      -- The method was refused before, so it is refused in every service.
      rw [settled] at kept
      have refused : q.settle.isOk = q₀.settle.isOk := by
        rw [Query.settle, Query.settle, method]
        exact MethodMapping.isOk_resolve q.service q₀.service q.method
      rw [settled] at refused
      cases now : q.settle with
      | ok m =>
        rw [now] at refused
        cases refused
      | error e' =>
        rw [resolve_of_error kept now]
        exact ⟨rfl, again⟩

/-! ### Runs -/

theorem Placed.sublist (placed : Placed qs) (part : before.Sublist qs) : Placed before :=
  fun q mem q' mem' => placed q (part.subset mem) q' (part.subset mem')

theorem Remembers.run (h : r.Remembers before) (placed : Placed (before ++ qs)) :
    (resolveAll r qs).1 =
        qs.map (fun q => q.settle.map (·.under (firstService (before ++ qs) q) q.method)) ∧
      (resolveAll r qs).2.Remembers (before ++ qs) := by
  induction qs generalizing r before with
  | nil =>
    rw [List.append_nil]
    exact ⟨rfl, h⟩
  | cons q qs ih =>
    have whole : before ++ q :: qs = before ++ [q] ++ qs := by
      rw [List.append_assoc, List.singleton_append]
    rw [whole] at placed
    obtain ⟨answer, now⟩ := h.step (placed.sublist (List.sublist_append_left _ _))
    obtain ⟨answers, later⟩ := ih now placed
    rw [← firstService_append q before qs, whole] at answer
    rw [whole]
    refine ⟨?_, later⟩
    rw [List.map_cons, ← answer, ← answers]
    rfl

theorem mem_places_iff : place ∈ r.cache.map (·.1) ↔ (r.cache.lookup place).isSome = true := by
  rw [List.lookup_isSome_iff, List.mem_map]
  simp only [beq_iff_eq, @eq_comm _ place]

theorem Remembers.mem_places_iff (h : r.Remembers qs) (placed : Placed qs) :
    place ∈ r.cache.map (·.1) ↔ ∃ q ∈ qs, q.settle.isOk = true ∧ q.method.place = place := by
  rw [MappingResolver.mem_places_iff, h.kept]
  constructor
  · intro kept
    cases found : first? qs place with
    | none =>
      rw [found] at kept
      cases kept
    | some q =>
      refine ⟨q, List.mem_of_find?_eq_some found, ?_, place_of_first? found⟩
      rw [found, Option.bind_some] at kept
      cases settled : q.settle with
      | ok m => rfl
      | error e =>
        rw [settled] at kept
        cases kept
  · rintro ⟨q, mem, ok, rfl⟩
    cases found : first? qs q.method.place with
    | none => exact absurd (beq_self_eq_true _) (List.find?_eq_none.mp found q mem)
    | some q₀ =>
      have method : q₀.method = q.method :=
        placed q₀ (List.mem_of_find?_eq_some found) q mem (place_of_first? found)
      rw [Query.settle, ← MethodMapping.isOk_resolve q₀.service, ← method, ← Query.settle] at ok
      rw [Option.bind_some]
      cases settled : q₀.settle with
      | ok m => rfl
      | error e =>
        rw [settled] at ok
        cases ok

theorem Remembers.size_eq (h : r.Remembers qs) (placed : Placed qs) :
    r.size = ((qs.filter (·.settle.isOk)).map (·.method.place)).dedup.length := by
  have perm : (r.cache.map (·.1)).Perm
      ((qs.filter (·.settle.isOk)).map (·.method.place)).dedup := by
    refine (List.perm_ext_iff_of_nodup h.places (List.nodup_dedup _)).mpr fun place => ?_
    rw [h.mem_places_iff placed, List.mem_dedup]
    simp [and_assoc]
  rw [size, ← perm.length_eq, List.length_map]

/-- A new resolver answers each query as if nothing were kept, but for the name and the timeout of a
method that another service was asked about with before. It keeps one mapping for each method that
has one. -/
theorem resolveAll_answers (placed : Placed qs) :
    (resolveAll {} qs).1 =
        qs.map (fun q => q.settle.map (·.under (firstService qs q) q.method)) ∧
      (∀ q ∈ qs, firstService qs q = q.service →
        q.settle.map (·.under (firstService qs q) q.method) = q.settle) ∧
      (resolveAll {} qs).2.size =
        ((qs.filter (·.settle.isOk)).map (·.method.place)).dedup.length := by
  obtain ⟨answers, remembers⟩ := remembers_empty.run placed
  refine ⟨answers, fun q _ same => ?_, remembers.size_eq placed⟩
  rw [same]
  exact MethodMapping.map_under_self

/-! ### Methods that are asked about with one service -/

/-- Who asked about the place of a method asked about this method, and with one service. -/
def AskedUnder (qs : List Query) (service : ServiceDescriptor) (method : MethodDescriptor) : Prop :=
  ∀ q ∈ qs, q.method.place = method.place → q = ⟨service, method⟩

theorem find?_resolve_self (accepts : ∀ m, r.find? method = some m →
      MethodMapping.resolve service method = .ok m) {m : MethodMapping}
    (kept : (r.resolve service method).2.find? method = some m) :
    MethodMapping.resolve service method = .ok m := by
  cases found : r.find? method with
  | some m' =>
    rw [resolve_of_kept found] at kept
    exact accepts m kept
  | none =>
    cases settled : MethodMapping.resolve service method with
    | error e =>
      rw [resolve_of_error found settled, found] at kept
      cases kept
    | ok m' =>
      have new : r.cache.lookup method.place = none := found
      rw [resolve_of_ok found settled, find?, List.lookup_append, new, Option.none_or] at kept
      simp at kept
      rw [kept]

/-- All that is kept of a method is the mapping of the service it was asked about with. -/
theorem AskedUnder.find?_resolveAll (asked : AskedUnder qs service method)
    (accepts : ∀ m, r.find? method = some m → MethodMapping.resolve service method = .ok m)
    (kept : (resolveAll r qs).2.find? method = some m) :
    MethodMapping.resolve service method = .ok m := by
  induction qs generalizing r with
  | nil => exact accepts m kept
  | cons q qs ih =>
    refine ih (fun q' mem => asked q' (List.mem_cons_of_mem _ mem)) (fun m' found => ?_) kept
    by_cases here : q.method.place = method.place
    · obtain rfl := asked q List.mem_cons_self here
      exact find?_resolve_self accepts found
    · have found : (r.resolve q.service q.method).2.find? method = some m' := found
      rw [find?_resolve_of_ne (Ne.symm here)] at found
      exact accepts m' found

/-- A method that was asked about with one service alone has the mapping of this service. -/
theorem AskedUnder.resolve (asked : AskedUnder qs service method) :
    ((resolveAll {} qs).2.resolve service method).1 = MethodMapping.resolve service method := by
  rw [fst_resolve]
  cases kept : (resolveAll {} qs).2.find? method with
  | none => rfl
  | some m => exact (asked.find?_resolveAll (fun _ none => by cases none) kept).symm

/-- Two services share a method, and one of them has another that has no mapping. -/
def sharedQueries : List Query :=
  let ping : MethodDescriptor := { place := 0, ident := "ping", resultType := "()" }
  let echo : MethodDescriptor :=
    { place := 1, ident := "echo", packing := some .single, resultType := "()" }
  let a : ServiceDescriptor := { name := "A", basePath := some "a", methods := [ping, echo] }
  let b : ServiceDescriptor := { name := "B", basePath := some "b", methods := [ping] }
  [⟨a, ping⟩, ⟨b, ping⟩, ⟨a, echo⟩, ⟨b, ping⟩]

theorem placed_sharedQueries : Placed sharedQueries := by
  unfold Placed
  decide

theorem resolveAll_answers_shared :
    Placed sharedQueries ∧
      (resolveAll {} sharedQueries).1.map (fun answer => answer.toOption.map (·.name)) =
        [some "a/ping", some "a/ping", none, some "a/ping"] ∧
      (resolveAll {} sharedQueries).2.size = 1 := by
  obtain ⟨answers, -, size⟩ := resolveAll_answers placed_sharedQueries
  refine ⟨placed_sharedQueries, ?_, ?_⟩
  · rw [answers]
    decide
  · rw [size]
    decide

/-- Where two services share a method, the second does not get its own mapping of it. -/
theorem shared_method_has_one_name :
    (resolveAll {} sharedQueries).1 ≠ sharedQueries.map Query.settle := by
  intro same
  have names := congrArg (List.map fun answer => answer.toOption.map (·.name)) same
  exact absurd names (by decide)

end MappingResolver

end DuplexRpc

import DuplexRpc.Proofs.Closing.Shifts

/-! Endpoints that are stopped while calls overlap. From the moment that its token is cancelled an
endpoint lets no request in. But a request that was let in before is entered, and posted, whatever was
closed since. -/

namespace DuplexRpc

namespace Endpoint

variable {e : Endpoint} {now : Nat} {stage : Stage}

/-- An endpoint that is stopped lets no request in. -/
theorem isAdmitted_advance (admitted : (e.advance now stage).1.isAdmitted = true) :
    stage.isAdmitted = true ∨ e.isStopped = false := by
  cases stage with
  | tested d | numbered d id => exact .inl rfl
  | entered d id ticket | made call ticket => cases admitted
  | prepared d =>
    rw [advance] at admitted
    split at admitted
    · cases admitted
    · rename_i live
      exact .inr (Bool.eq_false_iff.mpr live)
  | called what =>
    cases what with
    | plain method params timeout resultType => cases admitted
    | mapped client service method args =>
      rw [advance] at admitted
      split at admitted
      · cases admitted
      · split at admitted
        · cases admitted
        · split at admitted <;> cases admitted

/-- A request keeps the ticket that it was entered under. -/
theorem ticket?_advance {t : Nat} (has : stage.ticket? = some t) :
    (e.advance now stage).1.ticket? = some t := by
  cases stage with
  | entered d id ticket | made call ticket => exact has
  | _ => cases has

/-- A new entry is that of the request that got further. -/
theorem entries_advance_numbered {d : Demand} {id : Id} {p : PendingRequest}
    (mem : p ∈ (e.advance now (.numbered d id)).2.pool.entries) :
    p ∈ e.pool.entries ∨ (e.advance now (.numbered d id)).1.ticket? = some p.ticket := by
  rw [advance, PendingPool.add] at mem ⊢
  cases free : e.pool.find? id with
  | some q =>
    rw [free] at mem
    exact .inl mem
  | none =>
    rw [free] at mem
    rcases List.mem_append.mp mem with old | new
    · exact .inl old
    · rw [List.mem_singleton.mp new]
      exact .inr rfl

/-- A request at the endpoint ends with its test, and leaves the endpoint as it is. -/
structure Refuses (e : Endpoint) : Prop where
  test : ∀ now d, e.advance now (.prepared d) = (.made (.fail .interrupted) none, e)
  request : ∀ now method params timeout resultType,
    e.request now method params timeout resultType = (.fail .interrupted, e)

theorem refuses_of_isStopped (stopped : e.isStopped = true) : e.Refuses :=
  ⟨fun _ _ => if_pos stopped, fun _ _ _ _ _ => if_pos stopped⟩

end Endpoint

namespace Scene

variable {s : Scene} {side : Side}

theorem pool_mapNode (s : Scene) {f : Node → Node}
    (keeps : ∀ n, (f n).endpoint.pool = n.endpoint.pool) (at_ side : Side) :
    pool { s with net := s.net.mapNode at_ f } side = s.pool side := by
  cases at_ <;> cases side <;>
    simp [pool, Network.mapNode, Network.node?, Function.comp_def, keeps]

theorem pool_giveMade (task : Option Nat) (stage : Stage) :
    (s.giveMade side task stage).pool side = s.pool side := by
  cases stage with
  | made call ticket =>
    rw [giveMade]
    rcases s.give_cases side task call with given | ⟨serial, what, next, -, given⟩
    · rw [given]
      rfl
    · rw [given]
      refine s.pool_mapNode (fun n => ?_) side side
      rfl
  | _ => rfl

end Scene

namespace Overlap

variable {w : Overlap} {side : Side} {n : Node} {j k : Nat}

theorem pool_reach (here : w.scene.net.node? side = some n) (task : Option Nat)
    (x : Stage × Endpoint) : (w.reach side k task x).scene.pool side = x.2.pool := by
  rw [reach, Scene.pool_giveMade, Scene.setEndpoint, Scene.pool, Network.node?_mapNode_self, here]
  rfl

/-- What is added at one side is added there alone. -/
theorem append_at {α : Type} (f : Side → List α) (at_ side : Side) (x : α) :
    (if side = at_ then f at_ ++ [x] else f side) = f side ∨
      (if side = at_ then f at_ ++ [x] else f side) = f side ++ [x] := by
  by_cases here : side = at_
  · subst here
    exact .inr (if_pos rfl)
  · exact .inl (if_neg here)

/-- Calls are begun, and one of them gets further at a time. -/
theorem making_cases (w : Overlap) (part : Part) (side : Side) :
    (w.step part).making side = w.making side ∨
      (∃ task what, (w.step part).making side = w.making side ++ [⟨task, .called what⟩]) ∨
      ∃ k m n, part = .advance side k ∧ w.scene.net.node? side = some n ∧
        (w.making side)[k]? = some m ∧ m.stage.isMade = false ∧
        w.step part = w.reach side k m.task (n.endpoint.advance w.scene.net.clock m.stage) := by
  cases part with
  | whole ev =>
    simp only [step]
    split <;> exact .inl rfl
  | call at_ what =>
    simp only [step]
    split
    · exact (append_at w.making at_ side _).imp_right fun added => .inl ⟨none, what, added⟩
    · exact .inl rfl
  | callFrom at_ serial =>
    simp only [step]
    split
    · split
      · exact .inl rfl
      · exact (append_at w.making at_ side _).imp_right fun added => .inl ⟨some serial, _, added⟩
    · exact .inl rfl
  | advance at_ k =>
    cases here : w.scene.net.node? at_ with
    | none => exact .inl (by simp only [step, here])
    | some n =>
      cases there : (w.making at_)[k]? with
      | none => exact .inl (by simp only [step, here, there])
      | some m =>
        cases made : m.stage.isMade with
        | true => exact .inl (by rw [step_advance_of_made there made])
        | false =>
          have further := step_advance here there made
          by_cases same : side = at_
          · subst same
            exact .inr (.inr ⟨k, m, n, rfl, here, there, made, further⟩)
          · rw [further]
            exact .inl (if_neg same)
  | stop at_ =>
    simp only [step]
    split <;> exact .inl rfl
  | leave at_ duties =>
    simp only [step]
    split
    · split <;> exact .inl rfl
    · exact .inl rfl
  | close at_ k =>
    simp only [step]
    split <;> exact .inl rfl

/-! ### Endpoints that are stopped -/

variable {u : Overlap} {part : Part}

/-- The token of the endpoint of a side is cancelled. -/
def IsStopped (w : Overlap) (side : Side) : Prop :=
  (w.scene.net.node? side).any Node.isStopped = true

/-- The request of the call at a place passed the test, and has no entry yet. -/
def Admits (w : Overlap) (side : Side) (j : Nat) : Prop :=
  ∃ m, (w.making side)[j]? = some m ∧ m.stage.isAdmitted = true

/-- The ticket of the entry that the call at a place has or had. -/
def ticket? (w : Overlap) (side : Side) (j : Nat) : Option Nat :=
  (w.making side)[j]?.bind (·.stage.ticket?)

theorem isStopped_iff :
    w.IsStopped side ↔ ∃ n, w.scene.net.node? side = some n ∧ n.endpoint.isStopped = true :=
  Option.any_eq_true ..

theorem Ages.isStopped (ages : w.Ages u) (stopped : w.IsStopped side) : u.IsStopped side := by
  obtain ⟨n, here, stopped⟩ := isStopped_iff.mp stopped
  obtain ⟨n', here', aged⟩ := Network.Nodewise.node ages here
  exact isStopped_iff.mpr ⟨n', here', aged.stopped stopped⟩

/-- A stopped endpoint lets nobody in. -/
theorem Admits.of_step (stopped : w.IsStopped side) (admits : (w.step part).Admits side j) :
    w.Admits side j := by
  obtain ⟨m', there', admitted⟩ := admits
  obtain ⟨n, here, stopped⟩ := isStopped_iff.mp stopped
  rcases w.making_cases part side with same | ⟨task, what, begun⟩ |
    ⟨k, m, n', rfl, here', there, going, further⟩
  · rw [same] at there'
    exact ⟨m', there', admitted⟩
  · rw [begun, List.getElem?_append] at there'
    split at there'
    · exact ⟨m', there', admitted⟩
    · rw [List.mem_singleton.mp (List.mem_of_getElem? there')] at admitted
      cases admitted
  · obtain rfl := Option.some.inj (here.symm.trans here')
    rw [further] at there'
    by_cases same : k = j
    · subst same
      rw [making_reach there] at there'
      obtain rfl := Option.some.inj there'
      rcases Endpoint.isAdmitted_advance admitted with before | live
      · exact ⟨m, there, before⟩
      · rw [stopped] at live
        cases live
    · simp only [reach, putMaking, if_true, List.getElem?_set_ne same] at there'
      exact ⟨m', there', admitted⟩

theorem ticket?_step {t : Nat} (has : w.ticket? side j = some t) (part : Part) :
    (w.step part).ticket? side j = some t := by
  obtain ⟨m, there, ticket⟩ := Option.bind_eq_some_iff.mp has
  refine Option.bind_eq_some_iff.mpr ?_
  rcases w.making_cases part side with same | ⟨task, what, begun⟩ |
    ⟨k, m', n, rfl, -, there', -, further⟩
  · rw [same]
    exact ⟨m, there, ticket⟩
  · obtain ⟨inside, -⟩ := List.getElem?_eq_some_iff.mp there
    rw [begun, List.getElem?_append_left inside]
    exact ⟨m, there, ticket⟩
  · rw [further]
    by_cases same : k = j
    · subst same
      obtain rfl := Option.some.inj (there.symm.trans there')
      exact ⟨_, making_reach there _ _, Endpoint.ticket?_advance ticket⟩
    · simp only [reach, putMaking, if_true, List.getElem?_set_ne same]
      exact ⟨m, there, ticket⟩

/-- What becomes of an endpoint that was stopped. It lets nobody in, and what is entered is the request
of a call that had been let in. -/
structure Shuts (w u : Overlap) (side : Side) : Prop where
  stopped : u.IsStopped side
  admits : ∀ j, u.Admits side j → w.Admits side j
  tickets : ∀ j t, w.ticket? side j = some t → u.ticket? side j = some t
  entries : ∀ p ∈ (u.scene.pool side).entries, p ∈ (w.scene.pool side).entries ∨
    ∃ j, w.Admits side j ∧ u.ticket? side j = some p.ticket
  closed : (∀ j, ¬ w.Admits side j) →
    (u.scene.pool side).nextTicket = (w.scene.pool side).nextTicket

theorem Shuts.refl (stopped : w.IsStopped side) : w.Shuts w side :=
  ⟨stopped, fun _ => id, fun _ _ => id, fun _ => .inl, fun _ => rfl⟩

theorem Shuts.trans {v : Overlap} (h : w.Shuts u side) (h' : u.Shuts v side) : w.Shuts v side where
  stopped := h'.stopped
  admits j admits := h.admits j (h'.admits j admits)
  tickets j t has := h'.tickets j t (h.tickets j t has)
  entries p hp := by
    rcases h'.entries p hp with old | ⟨j, admits, ticket⟩
    · rcases h.entries p old with old | ⟨j, admits, ticket⟩
      · exact .inl old
      · exact .inr ⟨j, admits, h'.tickets j _ ticket⟩
    · exact .inr ⟨j, h.admits j admits, ticket⟩
  closed none := (h'.closed fun j admits => none j (h.admits j admits)).trans (h.closed none)

theorem Regular.shuts_step (h : w.Regular) (stopped : w.IsStopped side) (part : Part) :
    w.Shuts (w.step part) side := by
  obtain ⟨n, here, token⟩ := isStopped_iff.mp stopped
  refine ⟨(h.step part).2.isStopped stopped, fun j => .of_step stopped,
    fun j t has => ticket?_step has part, fun p hp => ?_, fun none => ?_⟩
  all_goals by_cases late : w.IsLate part side
  · obtain ⟨k, m, d, id, rfl, there, numbered⟩ := late
    rw [step_advance here there (by rw [numbered]; rfl), numbered] at hp ⊢
    rw [pool_reach here] at hp
    rw [Scene.pool_eq here]
    rcases Endpoint.entries_advance_numbered hp with old | new
    · exact .inl old
    · refine .inr ⟨k, ⟨m, there, by rw [numbered]; rfl⟩, ?_⟩
      rw [ticket?, making_reach there]
      exact new
  · obtain ⟨n', here', shift⟩ := Network.Nodewise.node (shifts_step h part) here
    rw [Scene.pool_eq here'] at hp
    rw [Scene.pool_eq here]
    exact .inl ((Stance.Regular.closed_shift (h side n here) shift late token).2 p hp)
  · obtain ⟨k, m, d, id, rfl, there, numbered⟩ := late
    exact absurd ⟨m, there, by rw [numbered]; rfl⟩ (none k)
  · obtain ⟨n', here', shift⟩ := Network.Nodewise.node (shifts_step h part) here
    rw [Scene.pool_eq here', Scene.pool_eq here]
    exact (Stance.Regular.closed_shift (h side n here) shift late token).1

theorem Regular.shuts_run (h : w.Regular) (stopped : w.IsStopped side) (parts : List Part) :
    w.Shuts (w.run parts) side := by
  induction parts generalizing w with
  | nil => exact .refl stopped
  | cons part parts ih =>
    have shuts := h.shuts_step stopped part
    exact shuts.trans (ih (h.step part).1 shuts.stopped)

end Overlap

end DuplexRpc

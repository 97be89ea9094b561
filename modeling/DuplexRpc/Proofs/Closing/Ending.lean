import DuplexRpc.Proofs.Closing.Incidents

/-! The end of an endpoint. Once it was stopped, or the loop that handled its frames is gone for
whatever reason, nothing waits there any more; and from the moment that it is asked to stop it makes
no request. -/

namespace DuplexRpc

namespace Stance

variable {v v' : Stance}

/-- Every call that is left in `v'` was there in `v`, and its outcome is the one that was there or
that the call was interrupted. -/
def Interrupts (v v' : Stance) : Prop :=
  ∀ c ∈ v'.calls, c ∈ v.calls ∧
    v'.pool.outcome? c.1 = some ((v.pool.outcome? c.1).getD (.error .interrupted))

theorem Regular.interrupts_of_over (h : v.Regular) (h' : v'.Regular) (past : v.Over) (later : v.Later v') :
    v.Interrupts v' := by
  intro c hc
  obtain ⟨there, same⟩ := later.outcome?_eq h h' past hc
  obtain ⟨o, outcome⟩ := Option.isSome_iff_exists.mp (h.outcome?_isSome past there)
  rw [same, outcome]
  exact ⟨there, rfl⟩

theorem Regular.interrupts_of_failAll (h : v.Regular) (calls : v'.calls = v.calls)
    (pool : v'.pool = v.pool.failAll .interrupted) : v.Interrupts v' := by
  intro c hc
  rw [calls] at hc
  rw [pool]
  exact ⟨hc, h.pool.outcome?_failAll (h.slot c hc)⟩

end Stance

/-- The outcome is that the request was interrupted. -/
def Outcome.isInterrupted : Outcome → Bool
  | .error ⟨kind, message, none⟩ => kind == .internalError && message == "Interrupted"
  | _ => false

theorem Outcome.eq_interrupted {o : Outcome} (h : o.isInterrupted = true) :
    o = .error .interrupted := by
  match o with
  | .error ⟨kind, message, none⟩ =>
    simp only [isInterrupted, Bool.and_eq_true, beq_iff_eq] at h
    obtain ⟨rfl, rfl⟩ := h
    rfl

namespace Scene

variable {s s' : Scene} {side : Side} {n : Node}

/-- The calls that callers and tasks hold at the endpoint of a side, by ticket and id. -/
def calls (s : Scene) (side : Side) : List (Nat × Id) :=
  s.held side ++ ((s.net.node? side).map fun n => n.tasks.filterMap Task.key?).getD []

/-- What a caller gets that looks for the outcome of its call. -/
def outcome? (s : Scene) (side : Side) (c : Nat × Id) : Option Outcome :=
  (s.net.node? side).bind fun n => (n.endpoint.poll (.waiting c.2 c.1)).1

theorem calls_eq (here : s.net.node? side = some n) : s.calls side = (s.stance side n).calls := by
  rw [calls, here]
  rfl

theorem outcome?_eq (here : s.net.node? side = some n) (c : Nat × Id) :
    s.outcome? side c = (s.stance side n).pool.outcome? c.1 := by
  rw [outcome?, here]
  show (n.endpoint.poll (.waiting c.2 c.1)).1 = (n.endpoint.pool.slots.find? c.1).bind Slot.outcome?
  rw [Endpoint.poll_waiting]
  split <;> rename_i there <;> rw [there]

/-- The endpoint of a side is asked to stop, and no request waits there. -/
def IsOver (s : Scene) (side : Side) : Prop :=
  ∃ n, s.net.node? side = some n ∧ n.isStopped = true ∧ n.endpoint.pool.entries = [] ∧
    n.endpoint.pool.timers = []

/-- The endpoint of a side was stopped by its holder in an incident, or the loop that handles its
frames is gone after it. -/
inductive Ends (s : Scene) (ev : Incident) (side : Side) : Prop
  | stop (asked : ev = .ask side .stop) (held : (s.holder? side).isSome = true)
  | loop {n : Node} (here : (s.step ev).net.node? side = some n)
      (joined : (s.step ev).net.link.medium ≠ .none) (ended : n.receiving = false)

theorem isOver_of_sound (here : s.net.node? side = some n) (sound : n.endpoint.pool.Sound)
    (stopped : n.isStopped = true) (empty : n.endpoint.pool.entries = []) : s.IsOver side :=
  ⟨n, here, stopped, empty, by rw [sound.timers, empty, List.filterMap_nil]⟩

theorem Holds.isOver (h : s.Holds) (here : s.net.node? side = some n) (past : (s.stance side n).Over) :
    s.IsOver side :=
  isOver_of_sound here (h side n here).pool past.1 past.2

theorem Holds.ends (h : s.Holds) {ev : Incident} (ends : s.Ends ev side) :
    ∃ n n', s.net.node? side = some n ∧ (s.step ev).net.node? side = some n' ∧
      ((s.step ev).stance side n').Over ∧
      (s.stance side n).Interrupts ((s.step ev).stance side n') := by
  cases ends with
  | stop asked held =>
    subst asked
    obtain ⟨n, found⟩ := Option.isSome_iff_exists.mp held
    obtain ⟨here, -⟩ := holder?_eq_some found
    have stopped : s.step (.ask side .stop) =
        { s with net := s.net.mapNode side fun m => { m with endpoint := n.endpoint.stop } } := by
      simp only [Scene.step, found]
      rfl
    have sound := (h side n here).pool
    rw [stopped]
    refine ⟨n, { n with endpoint := n.endpoint.stop }, here, ?_, ⟨rfl, sound.entries_failAll _⟩,
      (h side n here).interrupts_of_failAll rfl rfl⟩
    rw [Network.node?_mapNode_self, here]
    rfl
  | @loop n' there joined ended =>
    have h' := (h.step ev).1 side n' there
    obtain ⟨n, here, turn⟩ := Network.Nodewise.origin (turns_step h ev) there
    refine ⟨n, n', here, there, h'.ended joined ended, ?_⟩
    cases running : n.receiving with
    | true =>
      -- the loop ended in this incident
      obtain ⟨-, calls, pool⟩ := turn.interrupted running ended
      exact (h side n here).interrupts_of_failAll calls pool
    | false =>
      -- it was gone before: all outcomes are there
      have later := ((h side n here).turn turn).2
      have past := (h side n here).ended (later.medium ▸ joined) running
      exact (h side n here).interrupts_of_over h'.toRegular past later

/-- After an endpoint ended nothing waits there any more, whatever happens. -/
theorem Holds.isOver_of_ends (h : s.Holds) {ev : Incident} (ends : s.Ends ev side)
    (after : List Incident) : ((s.step ev).run after).IsOver side := by
  obtain ⟨-, n', -, here', past, -⟩ := h.ends ends
  obtain ⟨h'', later⟩ := (h.step ev).1.run after
  obtain ⟨n'', here'', later⟩ := Network.Nodewise.node later here'
  exact h''.isOver here'' (later.past past)

/-- After an endpoint ended who still holds a call has the outcome that was there before, or was
interrupted. -/
theorem Holds.outcomes_of_ends (h : s.Holds) {ev : Incident} (ends : s.Ends ev side)
    (after : List Incident) {c : Nat × Id} (hc : c ∈ ((s.step ev).run after).calls side) :
    c ∈ s.calls side ∧ ((s.step ev).run after).outcome? side c =
      some ((s.outcome? side c).getD (.error .interrupted)) := by
  obtain ⟨n, n', here, here', past, interrupts⟩ := h.ends ends
  have h' : (s.step ev).Holds := (h.step ev).1
  obtain ⟨h'', later⟩ := h'.run after
  obtain ⟨n'', here'', later⟩ := Network.Nodewise.node later here'
  rw [calls_eq here''] at hc
  obtain ⟨there', same⟩ := later.outcome?_eq (h' side n' here').toRegular
      (h'' side n'' here'').toRegular past hc
  obtain ⟨there, outcome⟩ := interrupts c there'
  rw [calls_eq here, outcome?_eq here'', outcome?_eq here, same]
  exact ⟨there, outcome⟩

/-- Where calls, stops and the ends of loops do not overlap: once an endpoint ended nothing waits there
any more, whatever happens before and after, and who still holds a call finds its outcome, which is the
one that was there before or that the call was interrupted. An endpoint that was asked to stop makes no
request, takes no id for it, and leaves no trace of it. -/
theorem ended_for_good {net : Network} (starts : Starts net) (before after : List Incident)
    (ev : Incident) (side : Side) :
    let s := Scene.run { net } before
    let u := (s.step ev).run after
    (s.Ends ev side → u.IsOver side ∧ ∀ c ∈ u.calls side, c ∈ s.calls side ∧
      u.outcome? side c = some ((s.outcome? side c).getD (.error .interrupted))) ∧
    (((s.step ev).net.node? side).any Node.isStopped = true → ∃ n, u.net.node? side = some n ∧
      n.isStopped = true ∧ ∀ now method params timeout resultType,
        n.endpoint.request now method params timeout resultType =
          (.fail .interrupted, n.endpoint)) := by
  intro s u
  have h : s.Holds := ((holds_start starts).run before).1
  refine ⟨fun ends => ⟨h.isOver_of_ends ends after, fun c => h.outcomes_of_ends ends after⟩,
    fun stopped => ?_⟩
  obtain ⟨n', here', stopped⟩ := (Option.any_eq_true ..).mp stopped
  obtain ⟨n'', here'', later⟩ := Network.Nodewise.node ((h.step ev).1.run after).2 here'
  have stopped'' : n''.endpoint.isStopped = true := later.stopped stopped
  refine ⟨n'', here'', stopped'', fun now method params timeout resultType => ?_⟩
  rw [Endpoint.request, if_pos stopped'']

end Scene

end DuplexRpc

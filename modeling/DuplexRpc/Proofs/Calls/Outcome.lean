import DuplexRpc.Proofs.Calls.Invariant

/-! Every request that was posted has one outcome, the first that was offered to it, whatever comes
after it and in whatever order. -/

namespace DuplexRpc.Callers

/-- The callers of a new endpoint. -/
def start (n : Node) (config : EndpointConfig) (registry : Registry) (transport : Transport)
    (ids : Option IdSource) : Callers where
  node := { n with endpoint := .create config registry transport ids }

/-- What becomes of a posted request, in a state and in a run that goes on from it. -/
structure Decided (s : Callers) (more : List CallEvent) (p : PostedRequest) : Prop where
  condition : ∃! c, s.Meets p c
  waiting : s.Meets p .waiting → p.offers = []
  first : ∀ outcome, s.Has p outcome → p.offers.head? = some outcome
  late : ¬ s.Meets p .waiting → ∀ r : Response, p.id.same r.id = true →
    s.endpoint.handle (.response r) = ((s.endpoint.note (.unmatched r.id)).countUnmatched, [])
  lasting : ∃ p' ∈ (s.run more).posted, p'.ticket = p.ticket ∧ p'.id = p.id ∧
    ∀ outcome, s.Has p outcome →
      (s.run more).Has p' outcome ∨ (s.run more).Meets p' .dropped

variable {s : Callers} {left : Nat} {p : PostedRequest}

theorem holds_start (n : Node) (config : EndpointConfig) (registry : Registry)
    (transport : Transport) (ids : Option IdSource)
    (distinct : (ids.getD (.sequence config.initialId)).Distinct left) :
    Holds (start n config registry transport ids) left where
  sound := PendingPool.sound_empty
  entry _ hq := absurd hq List.not_mem_nil
  tickets := List.Pairwise.nil
  below _ hp := absurd hp List.not_mem_nil
  ids := distinct
  stands _ hp := absurd hp List.not_mem_nil

namespace Holds

theorem contains_eq_false (h : Holds s left) (hp : p ∈ s.posted)
    (gone : ∀ q ∈ s.pool.entries, q.ticket ≠ p.ticket) : s.pool.contains p.id = false := by
  refine PendingPool.contains_eq_false.mpr fun q hq => Bool.eq_false_iff.mpr fun same => ?_
  exact gone q hq (h.ticket_of_same hp hq same)

/-- A posted request waits and nothing was offered to it, or it has the first outcome that was
offered to it, or it was dropped. -/
theorem meets (h : Holds s left) (hp : p ∈ s.posted) :
    (s.Meets p .waiting ∧ p.holding = .held ∧ p.offers = []) ∨
      (s.Meets p .settled ∧ ∃ o, s.Has p o ∧ p.offers.head? = some o) ∨ s.Meets p .dropped := by
  cases h.stands p hp with
  | waiting q mem ticket id held slot none =>
    have found : s.pool.find? p.id = some q := h.sound.find?_of_mem mem (id ▸ Id.same_refl _)
    exact Or.inl ⟨⟨⟨q, found, ticket⟩, held, slot⟩, held, none⟩
  | filled o gone held slot first =>
    have has : s.Has p o := Or.inl ⟨held, slot⟩
    refine Or.inr (Or.inl ⟨⟨h.contains_eq_false hp gone, o, has, fun o' has' => ?_⟩, o, has, first⟩)
    rcases has' with ⟨-, slot'⟩ | taken
    · rw [slot] at slot'
      exact (Slot.filled.inj (Option.some.inj slot')).symm
    · simp [held] at taken
  | taken o gone taken first =>
    have has : s.Has p o := Or.inr taken
    refine Or.inr (Or.inl ⟨⟨h.contains_eq_false hp gone, o, has, fun o' has' => ?_⟩, o, has, first⟩)
    rcases has' with ⟨held, -⟩ | taken'
    · simp [held] at taken
    · rw [taken] at taken'
      exact (Holding.taken.inj taken').symm
  | dropped gone dropped => exact Or.inr (Or.inr ⟨h.contains_eq_false hp gone, dropped⟩)

end Holds

/-! ### The conditions exclude each other -/

theorem Meets.not_contains {c : Condition} (h : s.Meets p c) (hc : c ≠ .waiting) :
    s.pool.contains p.id = false := by
  cases c with
  | waiting => exact absurd rfl hc
  | settled => exact h.1
  | dropped => exact h.1

theorem Meets.contains (h : s.Meets p .waiting) : s.pool.contains p.id = true := by
  obtain ⟨⟨q, found, -⟩, -⟩ := h
  rw [PendingPool.contains, found]
  rfl

theorem Meets.not_has (h : s.Meets p .dropped) (o : Outcome) : ¬ s.Has p o := by
  rintro (⟨held, -⟩ | taken)
  · simp [h.2] at held
  · simp [h.2] at taken

theorem Meets.unique {c d : Condition} (hc : s.Meets p c) (hd : s.Meets p d) : c = d := by
  by_cases cw : c = .waiting <;> by_cases dw : d = .waiting
  · rw [cw, dw]
  · subst cw
    exact absurd (hc.contains.symm.trans (hd.not_contains dw)) (by decide)
  · subst dw
    exact absurd (hd.contains.symm.trans (hc.not_contains cw)) (by decide)
  · cases c <;> cases d <;> first | rfl | exact absurd rfl cw | exact absurd rfl dw | skip
    · exact absurd hc.2.exists.choose_spec (hd.not_has _)
    · exact absurd hd.2.exists.choose_spec (hc.not_has _)

/-! ### What a run keeps -/

/-- A posted request at two moments of a run. -/
def Continues (p p' : PostedRequest) : Prop :=
  p'.ticket = p.ticket ∧ p'.id = p.id ∧ p.offers <+: p'.offers

theorem Continues.trans {p p' p'' : PostedRequest} (h : Continues p p') (h' : Continues p' p'') :
    Continues p p'' :=
  ⟨h'.1.trans h.1, h'.2.1.trans h.2.1, h.2.2.trans h'.2.2⟩

theorem posted_noteOffers (e : CallEvent) (hp : p ∈ s.posted) :
    ∃ p' ∈ (s.noteOffers e).posted, Continues p p' :=
  ⟨_, List.mem_map_of_mem hp, rfl, rfl, List.prefix_append _ _⟩

theorem posted_setHolding (ticket : Nat) (holding : Holding) (hp : p ∈ s.posted) :
    ∃ p' ∈ (s.setHolding ticket holding).posted, Continues p p' := by
  refine ⟨_, List.mem_map_of_mem hp, ?_⟩
  split
  · exact ⟨rfl, rfl, List.prefix_refl _⟩
  · exact ⟨rfl, rfl, List.prefix_refl _⟩

theorem posted_act (e : CallEvent) (hp : p ∈ s.posted) : ∃ p' ∈ (s.act e).posted, Continues p p' := by
  have same : Continues p p := ⟨rfl, rfl, List.prefix_refl _⟩
  cases e <;> simp only [act] <;> repeat' split
  all_goals first
    | exact ⟨p, hp, same⟩
    | exact posted_setHolding _ _ hp
    | exact ⟨p, List.mem_append_left _ hp, same⟩

theorem posted_run (events : List CallEvent) (hp : p ∈ s.posted) :
    ∃ p' ∈ (s.run events).posted, Continues p p' := by
  induction events generalizing s p with
  | nil => exact ⟨p, hp, rfl, rfl, List.prefix_refl _⟩
  | cons e events ih =>
    obtain ⟨p', hp', noted⟩ := posted_noteOffers e hp
    obtain ⟨p'', hp'', acted⟩ := posted_act e hp'
    obtain ⟨q, hq, rest⟩ := ih hp''
    exact ⟨q, hq, (noted.trans acted).trans rest⟩

namespace Holds

theorem head?_of_has (h : Holds s left) (hp : p ∈ s.posted) {o : Outcome} (has : s.Has p o) :
    p.offers.head? = some o := by
  obtain ⟨waits, held, -⟩ | ⟨⟨-, unique⟩, o', has', first⟩ | dropped := h.meets hp
  · rcases has with ⟨-, slot⟩ | taken
    · rw [waits.2.2] at slot
      cases (Option.some.inj slot)
    · simp [held] at taken
  · rw [first, unique.unique has has']
  · exact absurd has (dropped.not_has o)

/-- An outcome stays, unless its caller drops it. -/
theorem lasting {p' : PostedRequest} (h : Holds s left) (hp : p ∈ s.posted) {t : Callers}
    {left' : Nat} (h' : Holds t left') (hp' : p' ∈ t.posted) (goes : Continues p p') {o : Outcome}
    (has : s.Has p o) : t.Has p' o ∨ t.Meets p' .dropped := by
  obtain ⟨more, grown⟩ := goes.2.2
  have first : p'.offers.head? = some o := by
    rw [← grown, List.head?_append, h.head?_of_has hp has, Option.some_or]
  obtain ⟨-, -, none⟩ | ⟨-, o', has', first'⟩ | dropped := h'.meets hp'
  · rw [none] at first
    cases first
  · rw [first] at first'
    exact Or.inl (Option.some.inj first' ▸ has')
  · exact Or.inr dropped

end Holds

/-- The first step that completes a posted request decides its outcome. -/
theorem first_completion_decides (n : Node) (config : EndpointConfig) (registry : Registry)
    (transport : Transport) (ids : Option IdSource) (events more : List CallEvent)
    (distinct : (ids.getD (.sequence config.initialId)).Distinct
      (requestCount (events ++ more))) :
    ∀ p ∈ ((start n config registry transport ids).run events).posted,
      Decided ((start n config registry transport ids).run events) more p := by
  intro p hp
  have begins := holds_start n config registry transport ids distinct
  rw [requestCount_append, Nat.add_comm] at begins
  have now : Holds ((start n config registry transport ids).run events) (requestCount more) :=
    begins.run events
  have later : Holds (((start n config registry transport ids).run events).run more) 0 :=
    (Nat.zero_add _ ▸ now : Holds _ (0 + requestCount more)).run more
  constructor
  · obtain ⟨meets, -⟩ | ⟨meets, -⟩ | meets := now.meets hp
    all_goals exact ⟨_, meets, fun c hc => hc.unique meets⟩
  · intro waits
    obtain ⟨-, -, none⟩ | ⟨meets, -⟩ | meets := now.meets hp
    · exact none
    · cases (meets.unique waits)
    · cases (meets.unique waits)
  · intro o has
    exact now.head?_of_has hp has
  · intro moved r same
    have gone : ((start n config registry transport ids).run events).pool.contains p.id = false := by
      obtain ⟨meets, -⟩ | ⟨meets, -⟩ | meets := now.meets hp
      · exact absurd meets moved
      · exact meets.1
      · exact meets.1
    have unmatched :
        ((start n config registry transport ids).run events).pool.find? r.id = none := by
      rw [← PendingPool.find?_congr same, PendingPool.find?_eq_none]
      exact PendingPool.contains_eq_false.mp gone
    exact congrArg (·, []) (Endpoint.takeResponse_of_find?_none unmatched)
  · obtain ⟨p', hp', goes⟩ := posted_run more hp
    exact ⟨p', hp', goes.1, goes.2.1, fun o has => now.lasting hp later hp' goes has⟩

/-- One request times out before it is answered; one is stopped and then dropped. -/
theorem first_completion_decides_two_requests :
    let node : Node := { endpoint := .create {} {} (.recorder [] none) none }
    let events : List CallEvent :=
      [.request "slow" none (some ⟨2000000000⟩) "Value", .request "lost" none none "Value",
        .pass 2000000000, .timer 0, .response ⟨.ofInt64 0, .ok .null⟩, .stop]
    ((start node {} {} (.recorder [] none) none).run events).posted.length = 2 ∧
      ∀ p ∈ ((start node {} {} (.recorder [] none) none).run events).posted,
        Decided ((start node {} {} (.recorder [] none) none).run events) [.poll 0, .drop 1] p :=
  ⟨by decide, first_completion_decides _ {} {} (.recorder [] none) none _ _ (by decide)⟩

end DuplexRpc.Callers

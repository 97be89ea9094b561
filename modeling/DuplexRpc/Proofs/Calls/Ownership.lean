import DuplexRpc.Proofs.Calls.Outcome

/-! Who ends a request, whatever ids are handed out. A call knows the entry of its request by the id
alone, from the moment when it is made to the moment when its outcome is taken. A call that has its
outcome but was not polled has no entry any more: if its id was handed out again, dropping it ends the
later request. Nothing else ends a request but its own response, timer and call, or a stop. -/

namespace DuplexRpc

/-- The outcome of a request that an event ends and whose call is still held. -/
def CallEvent.outcome : CallEvent → Outcome
  | .response r => r.result
  | .timer _ => .error .timeout
  | _ => .error .interrupted

namespace Callers

/-- The outcome is there for the caller of a ticket. -/
def outcome? (s : Callers) (ticket : Nat) : Option Outcome :=
  (s.pool.slots.find? ticket).bind Slot.outcome?

/-- The event ends the request of an entry: as its own response, timer or call does, or as everything
ends, or as a call does that has its outcome already and had the same id. -/
def Ends (s : Callers) (q : PendingRequest) : CallEvent → Prop
  | .response r => q.id.same r.id = true
  | .timer ticket => q.ticket = ticket ∧ (s.due? ticket).isSome = true
  | .drop ticket => ∃ p, s.held? ticket = some p ∧
      (q.ticket = ticket ∨ (s.outcome? ticket).isSome = true ∧ q.id.same p.id = true)
  | .stop | .loopExit => True
  | _ => False

/-- The invariant of a run, whatever ids are handed out: every entry is that of one posted request, and
a call that is held has its entry or its outcome. -/
structure Owned (s : Callers) : Prop where
  sound : s.pool.Sound
  slot : ∀ q ∈ s.pool.entries, s.pool.slots.find? q.ticket = some .vacant
  entry : ∀ q ∈ s.pool.entries, ∃ p ∈ s.posted, p.ticket = q.ticket ∧ p.id = q.id
  tickets : s.posted.Pairwise fun p q => p.ticket ≠ q.ticket
  below : ∀ p ∈ s.posted, p.ticket < s.pool.nextTicket
  held : ∀ p ∈ s.posted, p.holding = .held →
    (∃ q ∈ s.pool.entries, q.ticket = p.ticket) ∨ (s.outcome? p.ticket).isSome = true

/-- What a step from `s` to `t` does to the requests that wait. -/
structure Accounts (s : Callers) (e : CallEvent) (t : Callers) : Prop where
  owned : Owned t
  gone : ∀ q ∈ s.pool.entries, q ∉ t.pool.entries ↔ s.Ends q e
  told : ∀ q ∈ s.pool.entries, s.Ends q e → e ≠ .drop q.ticket →
    t.outcome? q.ticket = some e.outcome

variable {s t : Callers} {p : PostedRequest} {q : PendingRequest} {e : CallEvent}

namespace Owned

theorem id_of_ticket (h : Owned s) (hp : p ∈ s.posted) (hq : q ∈ s.pool.entries)
    (ht : q.ticket = p.ticket) : q.id = p.id := by
  obtain ⟨p', hp', ticket, id⟩ := h.entry q hq
  have same : p' = p :=
    List.Pairwise.forall_of_forall_of_flip
      (R := fun p q : PostedRequest => p.ticket = q.ticket → p = q)
      (fun _ _ _ => rfl) (h.tickets.imp fun hd ht => absurd ht hd)
      (h.tickets.imp fun hd ht => absurd ht.symm hd) hp' hp (ticket.trans ht)
  rw [← id, same]

/-- A request that waits is found by the id of its call. -/
theorem find?_of_ticket (h : Owned s) (hp : p ∈ s.posted) (hq : q ∈ s.pool.entries)
    (ht : q.ticket = p.ticket) : s.pool.find? p.id = some q := by
  have same : q.id.same p.id = true := by
    rw [h.id_of_ticket hp hq ht]
    exact Id.same_refl _
  exact h.sound.find?_of_mem hq same

theorem outcome?_of_entry (h : Owned s) (hq : q ∈ s.pool.entries) : s.outcome? q.ticket = none := by
  rw [outcome?, h.slot q hq]
  rfl

/-- A change that adds no entry and no posted request. -/
theorem update (h : Owned s) (f : PostedRequest → PostedRequest) (posted : t.posted = s.posted.map f)
    (id : ∀ p, (f p).id = p.id) (ticket : ∀ p, (f p).ticket = p.ticket) (sound : t.pool.Sound)
    (entries : ∀ q ∈ t.pool.entries, q ∈ s.pool.entries)
    (slot : ∀ q ∈ t.pool.entries, t.pool.slots.find? q.ticket = s.pool.slots.find? q.ticket)
    (next : s.pool.nextTicket ≤ t.pool.nextTicket)
    (held : ∀ p ∈ s.posted, (f p).holding = .held → p.holding = .held ∧
      ((∀ q ∈ s.pool.entries, q.ticket = p.ticket → q ∈ t.pool.entries) ∧
          t.outcome? p.ticket = s.outcome? p.ticket ∨
        (t.outcome? p.ticket).isSome = true)) : Owned t where
  sound := sound
  slot q hq := (slot q hq).trans (h.slot q (entries q hq))
  entry q hq := by
    obtain ⟨p, hp, ht, hid⟩ := h.entry q (entries q hq)
    exact ⟨f p, posted ▸ List.mem_map_of_mem hp, (ticket p).trans ht, (id p).trans hid⟩
  tickets := by
    rw [posted, List.pairwise_map]
    simpa only [ticket] using h.tickets
  below p hp := by
    rw [posted] at hp
    obtain ⟨r, hr, rfl⟩ := List.mem_map.mp hp
    rw [ticket]
    exact Nat.lt_of_lt_of_le (h.below r hr) next
  held p hp hheld := by
    rw [posted] at hp
    obtain ⟨r, hr, rfl⟩ := List.mem_map.mp hp
    rw [ticket]
    obtain ⟨was, ⟨stays, same⟩ | told⟩ := held r hr hheld
    · rcases h.held r hr was with ⟨q, hq, hqt⟩ | outcome
      · exact Or.inl ⟨q, stays q hq hqt, hqt⟩
      · exact Or.inr (same ▸ outcome)
    · exact Or.inr told

/-- An event that ends no request and touches no slot. -/
theorem keep (h : Owned s) (f : PostedRequest → PostedRequest) (posted : t.posted = s.posted.map f)
    (id : ∀ p, (f p).id = p.id) (ticket : ∀ p, (f p).ticket = p.ticket)
    (holding : ∀ p, (f p).holding = .held → p.holding = .held) (pool : t.pool = s.pool)
    (none : ∀ q ∈ s.pool.entries, ¬ s.Ends q e) : s.Accounts e t where
  owned := h.update f posted id ticket (pool ▸ h.sound) (fun q hq => pool ▸ hq)
    (fun q _ => by rw [pool]) (Nat.le_of_eq (congrArg (·.nextTicket) pool.symm))
    fun p _ hp => ⟨holding p hp, Or.inl ⟨fun q hq _ => pool ▸ hq, by rw [outcome?, outcome?, pool]⟩⟩
  gone q hq := by
    rw [pool]
    exact iff_of_false (not_not_intro hq) (none q hq)
  told q hq ends := absurd ends (none q hq)

theorem outcome?_close_self (h : Owned s) (hq : q ∈ s.pool.entries) {slot : Slot}
    (pool : t.pool = s.pool.close q slot) : t.outcome? q.ticket = slot.outcome? := by
  rw [outcome?, pool, PendingPool.slot_close_self, h.slot q hq]
  rfl

/-- An event that ends one request, whose call stays held. -/
theorem close (h : Owned s) (f : PostedRequest → PostedRequest) (posted : t.posted = s.posted.map f)
    (id : ∀ p, (f p).id = p.id) (ticket : ∀ p, (f p).ticket = p.ticket)
    (holding : ∀ p, (f p).holding = .held → p.holding = .held) (hq : q ∈ s.pool.entries)
    (pool : t.pool = s.pool.close q (.filled e.outcome))
    (ends : ∀ r ∈ s.pool.entries, s.Ends r e ↔ r = q) : s.Accounts e t where
  owned := by
    refine h.update f posted id ticket (pool ▸ h.sound.close hq nofun) (fun r hr => ?_)
      (fun r hr => ?_) (Nat.le_of_eq (congrArg (·.nextTicket) pool.symm)) fun p _ hp =>
        ⟨holding p hp, ?_⟩
    · rw [pool, PendingPool.mem_entries_close] at hr
      exact hr.1
    · rw [pool, PendingPool.mem_entries_close] at hr
      rw [pool, PendingPool.slot_close_of_ne hr.2]
    · by_cases same : p.ticket = q.ticket
      · rw [same, h.outcome?_close_self hq pool]
        exact Or.inr rfl
      · refine Or.inl ⟨fun r hr hrp => ?_, ?_⟩
        · rw [pool, PendingPool.mem_entries_close]
          exact ⟨hr, hrp ▸ same⟩
        · rw [outcome?, outcome?, pool, PendingPool.slot_close_of_ne same]
  gone r hr := by
    rw [ends r hr, pool, PendingPool.mem_entries_close, not_and,
      Decidable.not_not]
    exact ⟨fun gone => h.sound.eq_of_ticket hr hq (gone hr), fun same _ => same ▸ rfl⟩
  told r hr ended _ := by
    rw [(ends r hr).mp ended, h.outcome?_close_self hq pool]
    rfl

/-! ### Events that come from outside -/

theorem response (h : Owned s) (r : Response) : s.Accounts (.response r) (s.step (.response r)) := by
  cases found : s.pool.find? r.id with
  | none =>
    have taken := Endpoint.takeResponse_of_find?_none (e := s.endpoint) found
    exact h.keep _ rfl (fun _ => rfl) (fun _ => rfl) (fun _ held => held)
      (congrArg (·.pool) taken) fun q hq same => by
        rw [Ends, PendingPool.find?_eq_none.mp found q hq] at same
        cases same
  | some q =>
    obtain ⟨hq, same⟩ := PendingPool.find?_eq_some found
    have taken := Endpoint.takeResponse_of_find? (e := s.endpoint) found
    refine h.close _ rfl (fun _ => rfl) (fun _ => rfl) (fun _ held => held) hq
      (congrArg (·.pool) taken) fun r' hr' => ⟨fun same' => ?_, fun eq => eq ▸ same⟩
    exact h.sound.eq_of_same hr' hq (Id.same_trans same' (Id.same_symm same))

theorem timer (h : Owned s) (ticket : Nat) :
    s.Accounts (.timer ticket) (s.step (.timer ticket)) := by
  have acts : s.step (.timer ticket) = (s.noteOffers (.timer ticket)).act (.timer ticket) := rfl
  cases due : s.due? ticket with
  | none =>
    have none : (s.noteOffers (.timer ticket)).due? ticket = none := due
    rw [acts, act, none]
    exact h.keep _ rfl (fun _ => rfl) (fun _ => rfl) (fun _ held => held) rfl fun q _ ends => by
      rw [Ends, due] at ends
      cases ends.2
  | some timer =>
    have some : (s.noteOffers (.timer ticket)).due? ticket = some timer := due
    have own : timer.ticket = ticket := by
      have found := List.find?_some
        (p := fun t : Timer => t.ticket == ticket && decide (t.deadline ≤ s.clock)) due
      exact beq_iff_eq.mp (Bool.and_eq_true_iff.mp found).1
    obtain ⟨q, hq, armed, expired⟩ := h.sound.expire_eq (List.mem_of_find?_eq_some due)
    obtain ⟨-, same, -⟩ := PendingPool.timer?_eq_some.mp armed
    rw [acts, act, some]
    refine h.close _ rfl (fun _ => rfl) (fun _ => rfl) (fun _ held => held) hq
      ((Endpoint.pool_expire timer).trans (congrArg Prod.snd expired)) fun r hr => ?_
    rw [Ends, due]
    refine ⟨fun ends => ?_, fun eq => eq ▸ ⟨same.trans own, rfl⟩⟩
    exact h.sound.eq_of_ticket hr hq (ends.1.trans (same.trans own).symm)

/-- A stop, or the end of the loop, ends every request that waits. -/
theorem failAll (h : Owned s) (f : PostedRequest → PostedRequest)
    (posted : t.posted = s.posted.map f) (id : ∀ p, (f p).id = p.id)
    (ticket : ∀ p, (f p).ticket = p.ticket)
    (holding : ∀ p, (f p).holding = .held → p.holding = .held)
    (pool : t.pool = s.pool.failAll .interrupted) (ends : ∀ q, s.Ends q e)
    (outcome : e.outcome = .error .interrupted) : s.Accounts e t := by
  have empty : t.pool.entries = [] := pool ▸ h.sound.entries_failAll .interrupted
  have settled : ∀ ticket, t.pool.slots.find? ticket =
      (s.pool.slots.find? ticket).map (Slot.settled (.filled (.error .interrupted))) := by
    intro ticket
    rw [pool]
    exact h.sound.slot_failAll _ ticket
  have told : ∀ q ∈ s.pool.entries, t.outcome? q.ticket = some (.error .interrupted) := by
    intro q hq
    rw [outcome?, settled, h.slot q hq]
    rfl
  constructor
  · refine h.update f posted id ticket (pool ▸ h.sound.failAll _) (fun q hq => ?_) (fun q hq => ?_)
      (pool ▸ Nat.le_of_eq (PendingPool.nextTicket_failAll _).symm) fun p hp held =>
        ⟨holding p held, Or.inr ?_⟩
    · rw [empty] at hq
      exact absurd hq List.not_mem_nil
    · rw [empty] at hq
      exact absurd hq List.not_mem_nil
    · rcases h.held p hp (holding p held) with ⟨q, hq, same⟩ | outcome
      · rw [← same, told q hq]
        rfl
      · rw [outcome?] at outcome ⊢
        rw [settled]
        match hs : s.pool.slots.find? p.ticket with
        | none => rw [hs] at outcome; cases outcome
        | some .vacant => rfl
        | some (.filled o) => rfl
        | some .abandoned => rfl
  · intro q _
    rw [empty]
    exact iff_of_true List.not_mem_nil (ends q)
  · intro q hq _ _
    rw [told q hq, outcome]

/-! ### Events of the callers -/

/-- An outcome that is taken ends nothing: a request that waits has an empty slot. -/
theorem poll (h : Owned s) (ticket : Nat) : s.Accounts (.poll ticket) (s.step (.poll ticket)) := by
  have keeps : s.Accounts (.poll ticket) s :=
    h.keep id (List.map_id _).symm (fun _ => rfl) (fun _ => rfl) (fun _ held => held) rfl
      fun _ _ ends => ends
  rw [step, noteOffers_of_none fun _ => rfl]
  cases hh : s.held? ticket with
  | none => simpa only [act, hh] using keeps
  | some p =>
    obtain ⟨hp, rfl, -⟩ := held?_eq_some hh
    cases outcome : s.outcome? p.ticket with
    | none =>
      have none : (s.endpoint.pool.slots.find? p.ticket).bind Slot.outcome? = none := outcome
      simpa only [act, hh, PostedRequest.call, Endpoint.poll_waiting, none] using keeps
    | some o =>
      have some : (s.endpoint.pool.slots.find? p.ticket).bind Slot.outcome? = some o := outcome
      have other : ∀ q ∈ s.pool.entries, q.ticket ≠ p.ticket := by
        intro q hq same
        rw [← same, h.outcome?_of_entry hq] at outcome
        cases outcome
      simp only [act, hh, PostedRequest.call, Endpoint.poll_waiting, some]
      refine ⟨?_, fun q hq => iff_of_false (not_not_intro hq) id, fun _ _ ends => absurd ends id⟩
      refine h.update (fun r => if r.ticket = p.ticket then { r with holding := .taken o } else r)
        rfl (fun r => ?_) (fun r => ?_) (h.sound.eraseSlot _) (fun _ hq => hq)
        (fun q hq => Slots.find?_erase_of_ne (other q hq)) (Nat.le_refl _) fun r _ held => ?_
      · split <;> rfl
      · split <;> rfl
      · by_cases same : r.ticket = p.ticket
        · rw [if_pos same] at held
          cases held
        · rw [if_neg same] at held
          exact ⟨held, Or.inl ⟨fun _ hq _ => hq, congrArg (·.bind Slot.outcome?)
            (Slots.find?_erase_of_ne same)⟩⟩

/-- The request that a call ends as it is dropped is the one with its id: its own, or a later one if
the call has its outcome already. -/
theorem ends_drop_iff (h : Owned s) (held : s.held? p.ticket = some p) (hq : q ∈ s.pool.entries) :
    s.Ends q (.drop p.ticket) ↔ s.pool.find? p.id = some q := by
  obtain ⟨hp, -, holding⟩ := held?_eq_some held
  constructor
  · rintro ⟨p', held', own | ⟨-, same⟩⟩
    · exact h.find?_of_ticket hp hq own
    · rw [held] at held'
      exact h.sound.find?_of_mem hq (Option.some.inj held' ▸ same)
  · intro found
    refine ⟨p, held, ?_⟩
    rcases h.held p hp holding with ⟨r, hr, own⟩ | outcome
    · have mine := h.find?_of_ticket hp hr own
      rw [found] at mine
      exact Or.inl (Option.some.inj mine ▸ own)
    · exact Or.inr ⟨outcome, (PendingPool.find?_eq_some found).2⟩

/-- A call that goes takes its slot, and the entry with its id. -/
theorem leave (h : Owned s) (held : s.held? p.ticket = some p)
    (posted : t.posted = s.posted.map fun r =>
      if r.ticket = p.ticket then { r with holding := .dropped } else r)
    (pool : t.pool = (s.pool.leave p.ticket p.id).2) : s.Accounts (.drop p.ticket) t := by
  obtain ⟨hp, -, -⟩ := held?_eq_some held
  have id : ∀ r : PostedRequest,
      (if r.ticket = p.ticket then { r with holding := .dropped } else r).id = r.id := by
    intro r
    split <;> rfl
  have ticket : ∀ r : PostedRequest,
      (if r.ticket = p.ticket then { r with holding := .dropped } else r).ticket = r.ticket := by
    intro r
    split <;> rfl
  have others : ∀ r : PostedRequest,
      (if r.ticket = p.ticket then { r with holding := .dropped } else r).holding = .held →
        r.holding = .held ∧ r.ticket ≠ p.ticket := by
    intro r
    split
    · nofun
    · rename_i other
      exact fun held => ⟨held, other⟩
  have next : t.pool.nextTicket = s.pool.nextTicket := by
    rw [pool, PendingPool.nextTicket_leave]
  have sound : t.pool.Sound := by
    rw [pool]
    exact h.sound.leave _ _
  cases found : s.pool.find? p.id with
  | none =>
    replace pool := pool.trans (congrArg Prod.snd (PendingPool.leave_of_find?_none found))
    have entries : t.pool.entries = s.pool.entries := congrArg (·.entries) pool
    have slot : ∀ u, u ≠ p.ticket → t.pool.slots.find? u = s.pool.slots.find? u := by
      intro u hu
      rw [pool]
      exact Slots.find?_erase_of_ne hu
    have other : ∀ q ∈ t.pool.entries, q.ticket ≠ p.ticket := by
      intro q hq same
      have there := h.find?_of_ticket hp (entries ▸ hq) same
      rw [found] at there
      cases there
    refine ⟨h.update _ posted id ticket sound (fun q hq => entries ▸ hq)
      (fun q hq => slot _ (other q hq)) (Nat.le_of_eq next.symm) fun r _ held => ?_, fun q hq => ?_,
      fun q hq ends _ => ?_⟩
    · obtain ⟨held, other⟩ := others r held
      refine ⟨held, Or.inl ⟨fun q hq _ => entries ▸ hq, ?_⟩⟩
      rw [outcome?, slot _ other, outcome?]
    · rw [h.ends_drop_iff held hq, found, entries]
      exact iff_of_false (not_not_intro hq) nofun
    · rw [h.ends_drop_iff held hq, found] at ends
      cases ends
  | some q =>
    obtain ⟨hq, -⟩ := PendingPool.find?_eq_some found
    replace pool := pool.trans (congrArg Prod.snd (PendingPool.leave_of_find? found))
    have stays : ∀ r, r ∈ t.pool.entries ↔ r ∈ s.pool.entries ∧ r.ticket ≠ q.ticket := by
      intro r
      rw [pool]
      exact PendingPool.mem_entries_close
    have other : ∀ r ∈ t.pool.entries, r.ticket ≠ p.ticket := by
      intro r hr same
      obtain ⟨hr, different⟩ := (stays r).mp hr
      have there := h.find?_of_ticket hp hr same
      rw [found] at there
      exact different (Option.some.inj there ▸ rfl)
    have slot : ∀ u, u ≠ q.ticket → u ≠ p.ticket →
        t.pool.slots.find? u = s.pool.slots.find? u := by
      intro u hu hup
      rw [pool, PendingPool.slot_close_of_ne hu]
      exact Slots.find?_erase_of_ne hup
    have told : q.ticket ≠ p.ticket → t.outcome? q.ticket = some (.error .interrupted) := by
      intro different
      rw [outcome?, pool, PendingPool.slot_close_self, Slots.find?_erase_of_ne different, h.slot q hq]
      rfl
    refine ⟨h.update _ posted id ticket sound (fun r hr => ((stays r).mp hr).1) (fun r hr => ?_)
      (Nat.le_of_eq next.symm) fun r _ held => ?_, fun r hr => ?_, fun r hr ends different => ?_⟩
    · exact slot r.ticket ((stays r).mp hr).2 (other r hr)
    · obtain ⟨held, hne⟩ := others r held
      refine ⟨held, ?_⟩
      by_cases same : r.ticket = q.ticket
      · rw [same, told (same ▸ hne)]
        exact Or.inr rfl
      · refine Or.inl ⟨fun q' hq' own => (stays q').mpr ⟨hq', own ▸ same⟩, ?_⟩
        rw [outcome?, slot r.ticket same hne, outcome?]
    · rw [h.ends_drop_iff held hr, found, stays, not_and, Decidable.not_not]
      refine ⟨fun gone => congrArg some (h.sound.eq_of_ticket hr hq (gone hr)).symm, fun same _ => ?_⟩
      rw [Option.some.inj same]
    · rw [h.ends_drop_iff held hr, found] at ends
      obtain rfl := Option.some.inj ends
      exact told fun same => different (congrArg CallEvent.drop same.symm)

theorem drop (h : Owned s) (ticket : Nat) : s.Accounts (.drop ticket) (s.step (.drop ticket)) := by
  rw [step, noteOffers_of_none fun _ => rfl]
  cases hh : s.held? ticket with
  | none =>
    have none : ∀ q ∈ s.pool.entries, ¬ s.Ends q (.drop ticket) := by
      rintro q - ⟨p, held, -⟩
      rw [hh] at held
      cases held
    simpa only [act, hh] using
      h.keep id (List.map_id _).symm (fun _ => rfl) (fun _ => rfl) (fun _ held => held) rfl none
  | some p =>
    obtain ⟨-, rfl, -⟩ := held?_eq_some hh
    simp only [act, hh]
    exact h.leave hh rfl (Endpoint.pool_drop p.id p.ticket)

/-! ### New requests -/

/-- A request that is posted ends no other. -/
theorem enter (h : Owned s) (r : Request) (resultType : String) (deadline : Option Nat)
    (free : s.pool.find? r.id = none)
    (posted : t.posted = s.posted ++ [{ id := r.id, ticket := s.pool.nextTicket }])
    (pool : t.pool = s.pool.enter r resultType deadline) (none : ∀ q, ¬ s.Ends q e) :
    s.Accounts e t := by
  have mem : ∀ q, q ∈ t.pool.entries ↔ q ∈ s.pool.entries ∨
      q = ⟨r, resultType, deadline, s.pool.nextTicket⟩ := by
    intro q
    rw [pool, PendingPool.enter, List.mem_append, List.mem_singleton]
  have slot : ∀ u, t.pool.slots.find? u =
      (s.pool.slots.find? u).or (if u = s.pool.nextTicket then some .vacant else .none) := by
    intro u
    rw [pool, PendingPool.enter, Slots.find?_append_single]
  have old : ∀ u, u < s.pool.nextTicket → t.pool.slots.find? u = s.pool.slots.find? u := by
    intro u hu
    rw [slot, if_neg (Nat.ne_of_lt hu), Option.or_none]
  refine ⟨?_, fun q hq => ?_, fun q _ ends => absurd ends (none q)⟩
  · constructor
    · rw [pool]
      exact h.sound.enter resultType deadline free
    · intro q hq
      rcases (mem q).mp hq with hq | rfl
      · rw [old q.ticket (h.sound.below q hq), h.slot q hq]
      · rw [slot, h.sound.fresh _ (Nat.le_refl _), if_pos rfl, Option.none_or]
    · intro q hq
      rw [posted]
      rcases (mem q).mp hq with hq | rfl
      · obtain ⟨p, hp, found⟩ := h.entry q hq
        exact ⟨p, List.mem_append_left _ hp, found⟩
      · exact ⟨_, List.mem_append_right _ List.mem_cons_self, rfl, rfl⟩
    · rw [posted]
      refine List.pairwise_append.mpr ⟨h.tickets, List.pairwise_singleton _ _, fun p hp q hq => ?_⟩
      rw [List.mem_singleton.mp hq]
      exact Nat.ne_of_lt (h.below p hp)
    · intro p hp
      have next : t.pool.nextTicket = s.pool.nextTicket + 1 := congrArg (·.nextTicket) pool
      rw [next]
      rw [posted] at hp
      rcases List.mem_append.mp hp with hp | hp
      · exact Nat.lt_succ_of_lt (h.below p hp)
      · rw [List.mem_singleton.mp hp]
        exact Nat.lt_succ_self _
    · intro p hp held
      rw [posted] at hp
      rcases List.mem_append.mp hp with hp | hp
      · rcases h.held p hp held with ⟨q, hq, own⟩ | outcome
        · exact Or.inl ⟨q, (mem q).mpr (Or.inl hq), own⟩
        · rw [outcome?, old p.ticket (h.below p hp)]
          exact Or.inr outcome
      · rw [List.mem_singleton.mp hp]
        exact Or.inl ⟨_, (mem _).mpr (Or.inr rfl), rfl⟩
  · rw [mem]
    exact iff_of_false (not_not_intro (Or.inl hq)) (none q)

/-- A request that could not be posted ends no other: its own entry goes. -/
theorem takeBack (h : Owned s) (r : Request) (resultType : String) (deadline : Option Nat)
    (free : s.pool.find? r.id = none) (posted : t.posted = s.posted)
    (pool : t.pool = ((s.pool.enter r resultType deadline).leave s.pool.nextTicket r.id).2)
    (none : ∀ q, ¬ s.Ends q e) : s.Accounts e t := by
  have own : ∀ q ∈ (s.pool.enter r resultType deadline).entries,
      q.id.same r.id = true ↔ q.ticket = s.pool.nextTicket := by
    intro q hq
    rcases List.mem_append.mp hq with hq | hq
    · simp [PendingPool.find?_eq_none.mp free q hq, Nat.ne_of_lt (h.sound.below q hq)]
    · rw [List.mem_singleton.mp hq]
      exact iff_of_true (Id.same_refl _) rfl
  have stays : ∀ q, q ∈ t.pool.entries ↔ q ∈ s.pool.entries := by
    intro q
    rw [pool, PendingPool.mem_entries_leave own]
    constructor
    · rintro ⟨hq, different⟩
      rcases List.mem_append.mp hq with hq | hq
      · exact hq
      · rw [List.mem_singleton.mp hq] at different
        exact absurd rfl different
    · intro hq
      exact ⟨List.mem_append_left _ hq, Nat.ne_of_lt (h.sound.below q hq)⟩
  have slot : ∀ u, u < s.pool.nextTicket → t.pool.slots.find? u = s.pool.slots.find? u := by
    intro u hu
    rw [pool, PendingPool.slot_leave_of_ne own (Nat.ne_of_lt hu)]
    simp only [PendingPool.enter, Slots.find?_append_single, if_neg (Nat.ne_of_lt hu),
      Option.or_none]
  refine ⟨?_, fun q hq => ?_, fun q _ ends => absurd ends (none q)⟩
  · refine h.update id (posted.trans (List.map_id _).symm) (fun _ => rfl) (fun _ => rfl) ?_
      (fun q => (stays q).mp) (fun q hq => slot _ (h.sound.below q ((stays q).mp hq))) ?_
      fun p hp held => ⟨held, Or.inl ⟨fun q hq _ => (stays q).mpr hq, ?_⟩⟩
    · rw [pool]
      exact (h.sound.enter resultType deadline free).leave _ _
    · rw [pool, PendingPool.nextTicket_leave]
      exact Nat.le_succ _
    · rw [outcome?, slot p.ticket (h.below p hp), outcome?]
  · rw [stays]
    exact iff_of_false (not_not_intro hq) (none q)

theorem request (h : Owned s) (method : String) (params : Option Value) (timeout : Option Duration)
    (resultType : String) :
    s.Accounts (.request method params timeout resultType)
      (s.step (.request method params timeout resultType)) := by
  have keeps : ∀ e, e.pool = s.endpoint.pool →
      s.Accounts (.request method params timeout resultType) (s.setEndpoint e) := fun e same =>
    h.keep id (List.map_id _).symm (fun _ => rfl) (fun _ => rfl) (fun _ held => held) same
      fun _ _ ends => ends
  rw [step, noteOffers_of_none fun _ => rfl]
  obtain ⟨-, eq⟩ | ⟨-, p, -, eq⟩ | ⟨-, free, transport, -, eq⟩ | ⟨-, free, err, -, eq⟩ :=
    s.endpoint.request_cases s.clock method params timeout resultType
  · rw [act, eq]
    exact keeps _ rfl
  · rw [act, eq]
    exact keeps _ rfl
  · rw [act, eq]
    exact h.enter ⟨s.endpoint.ids.take.1, method, params⟩ resultType _ free rfl rfl fun _ ends => ends
  · rw [act, eq]
    exact h.takeBack ⟨s.endpoint.ids.take.1, method, params⟩ resultType _ free rfl
      (Endpoint.pool_leave _ _) fun _ ends => ends

/-! ### Runs -/

theorem step (h : Owned s) (e : CallEvent) : s.Accounts e (s.step e) := by
  cases e with
  | request method params timeout resultType => exact h.request method params timeout resultType
  | response r => exact h.response r
  | timer ticket => exact h.timer ticket
  | poll ticket => exact h.poll ticket
  | drop ticket => exact h.drop ticket
  | stop =>
    exact h.failAll _ rfl (fun _ => rfl) (fun _ => rfl) (fun _ held => held) rfl
      (fun _ => trivial) rfl
  | loopExit =>
    exact h.failAll _ rfl (fun _ => rfl) (fun _ => rfl) (fun _ held => held) rfl
      (fun _ => trivial) rfl
  | pass span =>
    exact h.keep _ rfl (fun _ => rfl) (fun _ => rfl) (fun _ held => held) rfl fun _ _ ends => ends
  | carry transport =>
    exact h.keep _ rfl (fun _ => rfl) (fun _ => rfl) (fun _ held => held) rfl fun _ _ ends => ends

theorem run (h : Owned s) (events : List CallEvent) : Owned (s.run events) := by
  induction events generalizing s with
  | nil => exact h
  | cons e events ih => exact ih (h.step e).owned

end Owned

theorem owned_start (n : Node) (config : EndpointConfig) (registry : Registry)
    (transport : Transport) (ids : Option IdSource) : Owned (start n config registry transport ids) where
  sound := PendingPool.sound_empty
  slot _ hq := absurd hq List.not_mem_nil
  entry _ hq := absurd hq List.not_mem_nil
  tickets := List.Pairwise.nil
  below _ hp := absurd hp List.not_mem_nil
  held _ hp := absurd hp List.not_mem_nil

/-- A request that waits is ended by exactly the events that `Ends` lists, and its caller is told
which. Polling is none of them, nor are new requests that fail to be posted. The id source may hand
out ids again, in any order. -/
theorem request_ends_iff (n : Node) (config : EndpointConfig) (registry : Registry)
    (transport : Transport) (ids : Option IdSource) (events : List CallEvent) (e : CallEvent) :
    let s := (start n config registry transport ids).run events
    ∀ q ∈ s.pool.entries,
      (q ∉ (s.step e).pool.entries ↔ s.Ends q e) ∧
        (s.Ends q e → e ≠ .drop q.ticket → (s.step e).outcome? q.ticket = some e.outcome) := by
  intro s q hq
  have accounts := ((owned_start n config registry transport ids).run events).step e
  exact ⟨accounts.gone q hq, accounts.told q hq⟩

/-- Two requests with one id, the later one made after the first was answered. Nobody has polled yet. -/
def reusedId : Callers :=
  (start { endpoint := .create {} {} (.recorder [] none) none } {} {} (.recorder [] none)
    (some (.ofList [.str "x"]))).run
      [.request "first" none none "Value", .response ⟨.str "x", .ok (.bool true)⟩,
        .request "second" none none "Value"]

theorem request_ends_iff_reused_id :
    ∃ q ∈ reusedId.pool.entries, q.ticket = 1 ∧ q.request.method = "second" ∧
      (q ∉ (reusedId.step (.drop 0)).pool.entries ↔ reusedId.Ends q (.drop 0)) ∧
        (reusedId.Ends q (.drop 0) → CallEvent.drop 0 ≠ .drop q.ticket →
          (reusedId.step (.drop 0)).outcome? q.ticket = some (.error .interrupted)) :=
  ⟨⟨⟨.str "x", "second", none⟩, "Value", none, 1⟩, List.mem_cons_self, rfl, rfl,
    request_ends_iff _ {} {} (.recorder [] none) _ _ (.drop 0) _ List.mem_cons_self⟩

/-- Dropping the call of a request that was answered interrupts a later request with its id. -/
theorem drop_of_answered_interrupts_later :
    reusedId.outcome? 0 = some (.ok (.bool true)) ∧ reusedId.outcome? 1 = none ∧
      reusedId.pool.entries.map (·.ticket) = [1] ∧
      (reusedId.step (.drop 0)).pool.entries.map (·.ticket) = [] ∧
      (reusedId.step (.drop 0)).outcome? 1 = some (.error .interrupted) :=
  ⟨rfl, rfl, rfl, rfl, rfl⟩

end Callers

end DuplexRpc

import DuplexRpc.Proofs.Network.Exchange

/-! A call that has no deadline and is not given up. Its entry waits until a response with its id is
handled; then the result lies in the slot of its caller until the caller takes it. -/

namespace DuplexRpc

/-- Where the entry `p` of a call stands. -/
inductive Held (p : PendingRequest) (e : Endpoint) (trace : Trace) : Prop where
  | waits (mem : p ∈ e.pool.entries) (vacant : e.pool.slots.find? p.ticket = some .vacant)
      (unanswered : ∀ r ∈ trace.answers, p.id.same r.id = false)
  | settled (r : Response) (resolved : (p, r) ∈ trace.resolved)
      (there : e.pool.slots.find? p.ticket = some (.filled r.result) ∨
        (p.ticket, r.result) ∈ trace.taken)

/-- A call with the ticket or the id was given up. -/
def Trace.GivesUp (trace : Trace) (ticket : Nat) (id : Id) : Prop :=
  ∃ x ∈ trace.dropped, x.1 = ticket ∨ x.2.same id = true

instance (trace : Trace) (ticket : Nat) (id : Id) : Decidable (trace.GivesUp ticket id) :=
  inferInstanceAs (Decidable (∃ x ∈ trace.dropped, x.1 = ticket ∨ x.2.same id = true))

theorem Trace.GivesUp.append_left {trace : Trace} {ticket : Nat} {id : Id}
    (h : trace.GivesUp ticket id) (new : Trace) : (trace.append new).GivesUp ticket id := by
  obtain ⟨x, hx, ours⟩ := h
  exact ⟨x, List.mem_append_left _ hx, ours⟩

theorem Trace.GivesUp.append_right {new : Trace} {ticket : Nat} {id : Id}
    (h : new.GivesUp ticket id) (trace : Trace) : (trace.append new).GivesUp ticket id := by
  obtain ⟨x, hx, ours⟩ := h
  exact ⟨x, List.mem_append_right _ hx, ours⟩

namespace Held

variable {source : IdSource} {p q : PendingRequest} {e e' : Endpoint} {trace new : Trace}

theorem via (h : Held p e trace) (t : Transport) : Held p (e.via t) trace := by
  cases h with
  | waits mem vacant unanswered => exact .waits mem vacant unanswered
  | settled r resolved there => exact .settled r resolved there

theorem apart (h : Held p e trace) (asking : Asking source e trace) (hq : q ∈ e.pool.entries)
    (different : q ≠ p) : p.ticket ≠ q.ticket := by
  cases h with
  | waits mem vacant unanswered =>
    exact fun same => different (asking.sound.eq_of_ticket hq mem same.symm)
  | settled r resolved there => exact ((asking.left _ resolved).2 q hq).symm

theorem below (h : Held p e trace) (asking : Asking source e trace) :
    p.ticket < e.pool.nextTicket := by
  cases h with
  | waits mem vacant unanswered => exact asking.sound.below p mem
  | settled r resolved there => exact (asking.left _ resolved).1

/-- Nothing that happens concerns the entry or its slot. -/
theorem keep (h : Held p e trace) (entries : p ∈ e.pool.entries → p ∈ e'.pool.entries)
    (slot : e'.pool.slots.find? p.ticket = e.pool.slots.find? p.ticket)
    (answers : p ∈ e.pool.entries → ∀ r ∈ new.answers, p.id.same r.id = false) :
    Held p e' (trace.append new) := by
  cases h with
  | waits mem vacant unanswered =>
    refine .waits (entries mem) (slot.trans vacant) ?_
    intro r hr
    rw [Trace.answers_append] at hr
    rcases List.mem_append.mp hr with old | fresh
    · exact unanswered r old
    · exact answers mem r fresh
  | settled r resolved there =>
    refine .settled r (List.mem_append_left _ resolved) ?_
    rw [slot]
    exact there.imp_right (List.mem_append_left _)

theorem quiet (h : Held p e trace) (pool : e'.pool = e.pool) (answers : new.answers = []) :
    Held p e' (trace.append new) := by
  apply h.keep
  · rw [pool]
    exact id
  · rw [pool]
  · rw [answers]
    exact fun _ _ hr => absurd hr List.not_mem_nil

theorem close (h : Held p e trace) (asking : Asking source e trace) (hq : q ∈ e.pool.entries)
    (different : q ≠ p) {slot : Slot} (pool : e'.pool = e.pool.close q slot)
    (answers : p ∈ e.pool.entries → ∀ r ∈ new.answers, p.id.same r.id = false) :
    Held p e' (trace.append new) := by
  have apart := h.apart asking hq different
  apply h.keep _ _ answers
  · intro mem
    rw [pool]
    exact PendingPool.mem_entries_close.mpr ⟨mem, apart⟩
  · rw [pool]
    exact PendingPool.slot_close_of_ne apart

theorem launched {clock : Nat} {posted : List Message} (h : Held p e trace)
    (asking : Asking source e trace) (launched : e.Launched clock posted e') :
    Held p e' (trace.append { posted }) := by
  have below := h.below asking
  cases launched with
  | idle _ quiet => exact h.quiet quiet.pool rfl
  | inFlight e' quiet => exact h.quiet quiet.pool rfl
  | posted e' quiet method params timeout resultType free =>
    apply h.keep
    · intro mem
      exact List.mem_append_left _ (quiet.pool ▸ mem)
    · have other : p.ticket ≠ e.pool.nextTicket := Nat.ne_of_lt below
      show (PendingPool.enter e'.pool _ resultType _).slots.find? p.ticket = _
      simp only [PendingPool.enter, quiet.pool, Slots.find?_append_single, if_neg other,
        Option.or_none]
    · exact fun _ _ hr => absurd hr List.not_mem_nil

/-- An outcome is taken: the one of the call, or the one of another. -/
theorem took (h : Held p e trace) {ticket : Nat} {outcome : Outcome}
    (there : (e.pool.slots.find? ticket).bind Slot.outcome? = some outcome) :
    Held p { e with pool := { e.pool with slots := e.pool.slots.erase ticket } }
      (trace.append { taken := [(ticket, outcome)] }) := by
  by_cases own : ticket = p.ticket
  · subst own
    cases h with
    | waits mem vacant unanswered =>
      rw [vacant] at there
      cases there
    | settled r resolved kept =>
      refine .settled r (List.mem_append_left _ resolved) (Or.inr (List.mem_append.mpr ?_))
      rcases kept with filled | taken
      · rw [filled] at there
        obtain rfl := Option.some.inj there
        exact Or.inr List.mem_cons_self
      · exact Or.inl taken
  · apply h.keep
    · exact fun mem => mem
    · exact Slots.find?_erase_of_ne (Ne.symm own)
    · exact fun _ _ hr => absurd hr List.not_mem_nil

theorem left (h : Held p e trace) (asking : Asking source e trace) {ticket : Nat} {id : Id}
    (ticket_ne : ticket ≠ p.ticket) (id_ne : id.same p.id = false) :
    Held p (e.leave ticket id) (trace.append { dropped := [(ticket, id)] }) := by
  have slot : (e.pool.slots.erase ticket).find? p.ticket = e.pool.slots.find? p.ticket :=
    Slots.find?_erase_of_ne ticket_ne.symm
  cases found : e.pool.find? id with
  | none =>
    have pool : (e.leave ticket id).pool =
        { e.pool with slots := e.pool.slots.erase ticket } := by
      rw [Endpoint.pool_leave, PendingPool.leave_of_find?_none found]
    apply h.keep
    · rw [pool]
      exact fun mem => mem
    · rw [pool]
      exact slot
    · exact fun _ _ hr => absurd hr List.not_mem_nil
  | some q =>
    obtain ⟨hq, same⟩ := PendingPool.find?_eq_some found
    have different : q ≠ p := by
      rintro rfl
      rw [Id.same_comm, id_ne] at same
      cases same
    have apart := h.apart asking hq different
    have pool : (e.leave ticket id).pool =
        { e.pool with slots := e.pool.slots.erase ticket }.close q .abandoned := by
      rw [Endpoint.pool_leave, PendingPool.leave_of_find? found]
    apply h.keep
    · intro mem
      rw [pool]
      exact PendingPool.mem_entries_close.mpr ⟨mem, apart⟩
    · rw [pool, PendingPool.slot_close_of_ne apart]
      exact slot
    · exact fun _ _ hr => absurd hr List.not_mem_nil

theorem response (h : Held p e trace) (asking : Asking source e trace) (r : Response) :
    Held p (e.takeResponse r)
      (trace.append { handled := [.response r], resolved := e.pool.matched [r] }) := by
  cases found : e.pool.find? r.id with
  | none =>
    have pool : (e.takeResponse r).pool = e.pool := by
      rw [Endpoint.takeResponse_of_find?_none found]
      rfl
    apply h.keep
    · rw [pool]
      exact fun mem => mem
    · rw [pool]
    · intro mem r' hr'
      rw [List.mem_singleton.mp hr']
      exact PendingPool.find?_eq_none.mp found p mem
  | some q =>
    obtain ⟨hq, same⟩ := PendingPool.find?_eq_some found
    have matched : e.pool.matched [r] = [(q, r)] := by
      simp only [PendingPool.matched, List.filterMap_cons, found, Option.map_some,
        List.filterMap_nil]
    have pool : (e.takeResponse r).pool = e.pool.close q (.filled r.result) := by
      rw [Endpoint.takeResponse_of_find? found]
      rfl
    by_cases own : q = p
    · subst own
      cases h with
      | waits mem vacant unanswered =>
        refine .settled r ?_ (Or.inl ?_)
        · rw [Trace.resolved_append, matched]
          exact List.mem_append_right _ List.mem_cons_self
        · rw [pool, PendingPool.slot_close_self, vacant]
          rfl
      | settled r' resolved kept => exact absurd rfl ((asking.left _ resolved).2 q hq)
    · apply h.close asking hq own pool
      intro mem r' hr'
      rw [List.mem_singleton.mp hr']
      by_cases equal : p.id.same r.id = true
      · have both := asking.sound.find?_of_mem mem equal
        rw [found] at both
        exact absurd (Option.some.inj both) own
      · simpa using equal

theorem step {clock : Nat} {tasks tasks' : List Task} (h : Held p e trace)
    (asking : Asking source e trace) (happening : Happening clock e tasks new e' tasks')
    (lasting : p.deadline = none) (kept : ¬ new.GivesUp p.ticket p.id) : Held p e' (trace.append new) := by
  cases happening with
  | quiet posted quiet => exact h.quiet quiet.pool rfl
  | launched launched => exact h.launched asking launched
  | took ticket there => exact h.took there
  | left ticket id =>
    apply h.left asking
    · rintro rfl
      exact kept ⟨_, List.mem_cons_self, Or.inl rfl⟩
    · by_cases same : id.same p.id = true
      · exact absurd ⟨_, List.mem_cons_self, Or.inr same⟩ kept
      · simpa using same
  | expired timer armed =>
    obtain ⟨q, hq, timer?, expired⟩ := asking.sound.expire_eq armed
    have different : q ≠ p := by
      rintro rfl
      rw [PendingRequest.timer?, lasting] at timer?
      cases timer?
    apply h.close asking hq different
    · rw [Endpoint.pool_expire, expired]
    · exact fun _ _ hr => absurd hr List.not_mem_nil
  | spawned handled more quiet notifications =>
    exact h.quiet quiet.pool (Message.responses_of_notifications notifications)
  | asked => exact h.quiet rfl rfl
  | refused more quiet => exact h.quiet quiet.pool rfl
  | answered r => exact h.response asking r
  | ended quiet => exact h.quiet quiet.pool rfl

end Held

namespace Course

variable {codec : Codec} {sources : Side → IdSource} {handlers : Side → List (String × Handler)}
  {c : Course} {side : Side} {p : PendingRequest}

theorem givesUp_run {acts : List Network.Act} {ticket : Nat} {id : Id}
    (h : (c.trace side).GivesUp ticket id) :
    ((c.run acts).trace side).GivesUp ticket id := by
  induction acts generalizing c with
  | nil => exact h
  | cons act acts ih =>
    apply ih
    simp only [Course.step]
    split
    · exact h.append_left _
    · exact h

/-- A call that is held is held at the end of a run, if it was not given up. -/
theorem Exchanges.held_run (h : Exchanges codec sources handlers c)
    (held : Held p (c.net.endpoint side) (c.trace side)) (lasting : p.deadline = none)
    (acts : List Network.Act) (fits : (c.run acts).Fits codec)
    (kept : ¬ ((c.run acts).trace side).GivesUp p.ticket p.id) :
    Held p ((c.run acts).net.endpoint side) ((c.run acts).trace side) := by
  induction acts generalizing c with
  | nil => exact held
  | cons act acts ih =>
    have next : (c.step act).Fits codec := Fits.of_run fits
    refine ih (h.step next.of_step act) ?_ fits kept
    have kept : ¬ ((c.step act).trace side).GivesUp p.ticket p.id := fun given =>
      kept (givesUp_run (c := c.step act) given)
    obtain ⟨at_, new, moves, here, there⟩ := h.moves next.of_step act
    rcases at_.eq_or_eq_other side with rfl | rfl
    · obtain ⟨e, happening, after⟩ := moves.here
      rw [here] at kept ⊢
      rw [after]
      refine (held.step (h.asking side) happening lasting fun given => ?_).via _
      exact kept (given.append_right _)
    · rw [there, moves.there]
      exact held.via _

end Course

end DuplexRpc

import DuplexRpc.Proofs.Calls.Run
import DuplexRpc.Proofs.Endpoint.Pool

/-! The invariant of a run of one endpoint. It ties every posted request to its entry, its slot and
what its caller holds. `left` counts the ids that are still to be taken, all of them new. -/

namespace DuplexRpc

/-- Where a posted request stands in a pool: it waits and nothing was offered to it, or it is gone
from the pool with the first outcome that was offered, or it was dropped. -/
inductive PostedRequest.Stands (p : PostedRequest) (pool : PendingPool) : Prop where
  | waiting (q : PendingRequest) (mem : q ∈ pool.entries) (ticket : q.ticket = p.ticket)
      (id : q.id = p.id) (held : p.holding = .held)
      (slot : pool.slots.find? p.ticket = some .vacant) (none : p.offers = [])
  | filled (outcome : Outcome) (gone : ∀ q ∈ pool.entries, q.ticket ≠ p.ticket)
      (held : p.holding = .held) (slot : pool.slots.find? p.ticket = some (.filled outcome))
      (first : p.offers.head? = some outcome)
  | taken (outcome : Outcome) (gone : ∀ q ∈ pool.entries, q.ticket ≠ p.ticket)
      (taken : p.holding = .taken outcome) (first : p.offers.head? = some outcome)
  | dropped (gone : ∀ q ∈ pool.entries, q.ticket ≠ p.ticket) (dropped : p.holding = .dropped)

namespace PostedRequest.Stands

variable {p : PostedRequest} {pool pool' : PendingPool}

/-- What happens to other tickets changes nothing. -/
theorem frame (h : p.Stands pool)
    (entries : ∀ q : PendingRequest, q.ticket = p.ticket → (q ∈ pool'.entries ↔ q ∈ pool.entries))
    (slots : pool'.slots.find? p.ticket = pool.slots.find? p.ticket) : p.Stands pool' := by
  have keep : (∀ q ∈ pool.entries, q.ticket ≠ p.ticket) → ∀ q ∈ pool'.entries, q.ticket ≠ p.ticket :=
    fun gone q hq ht => gone q ((entries q ht).mp hq) ht
  cases h with
  | waiting q mem ticket id held slot none =>
    exact .waiting q ((entries q ticket).mpr mem) ticket id held (slots ▸ slot) none
  | filled o gone held slot first => exact .filled o (keep gone) held (slots ▸ slot) first
  | taken o gone taken first => exact .taken o (keep gone) taken first
  | dropped gone dropped => exact .dropped (keep gone) dropped

/-- An offer to a request that no longer waits comes too late. -/
theorem offer (h : p.Stands pool) {more : List Outcome}
    (late : ∀ q ∈ pool.entries, q.ticket = p.ticket → q.id = p.id → more = []) :
    { p with offers := p.offers ++ more }.Stands pool := by
  cases h with
  | waiting q mem ticket id held slot none =>
    refine .waiting q mem ticket id held slot ?_
    rw [none, late q mem ticket id, List.nil_append]
  | filled o gone held slot first =>
    exact .filled o gone held slot (by rw [List.head?_append, first, Option.some_or])
  | taken o gone taken first =>
    exact .taken o gone taken (by rw [List.head?_append, first, Option.some_or])
  | dropped gone dropped => exact .dropped gone dropped

/-- The first offer fills the slot of a request that waits, and no later one does. -/
theorem complete (h : p.Stands pool) {outcome : Outcome}
    (gone' : ∀ q ∈ pool'.entries, q.ticket ≠ p.ticket)
    (slot' : pool'.slots.find? p.ticket =
      (pool.slots.find? p.ticket).map (Slot.settled (.filled outcome))) :
    { p with offers := p.offers ++ [outcome] }.Stands pool' := by
  cases h with
  | waiting q mem ticket id held slot none =>
    refine .filled outcome gone' held ?_ (by rw [none]; rfl)
    rw [slot', slot]
    rfl
  | filled o gone held slot first =>
    refine .filled o gone' held ?_ (by rw [List.head?_append, first, Option.some_or])
    rw [slot', slot]
    rfl
  | taken o gone taken first =>
    exact .taken o gone' taken (by rw [List.head?_append, first, Option.some_or])
  | dropped gone dropped => exact .dropped gone' dropped

end PostedRequest.Stands

namespace Callers

/-- The invariant of a run that takes at most `left` ids more. -/
structure Holds (s : Callers) (left : Nat) : Prop where
  sound : s.pool.Sound
  entry : ∀ q ∈ s.pool.entries, ∃ p ∈ s.posted, p.ticket = q.ticket ∧ p.id = q.id
  tickets : s.posted.Pairwise fun p q => p.ticket ≠ q.ticket
  below : ∀ p ∈ s.posted, p.ticket < s.pool.nextTicket
  ids : (s.posted.map (·.id) ++ s.endpoint.ids.takeMany left).Pairwise fun i j => i.same j = false
  stands : ∀ p ∈ s.posted, p.Stands s.pool

variable {s : Callers} {left : Nat} {p : PostedRequest} {q : PendingRequest}

theorem noteOffers_of_none {e : CallEvent} (none : ∀ p, s.offer? p e = .none) :
    s.noteOffers e = s := by
  have same : (s.posted.map fun p => { p with offers := p.offers ++ (s.offer? p e).toList }) =
      s.posted := by
    refine (List.map_congr_left fun p _ => ?_).trans s.posted.map_id
    rw [none, Option.toList_none, List.append_nil]
    rfl
  simp only [noteOffers, same]

theorem held?_eq_some {ticket : Nat} (h : s.held? ticket = some p) :
    p ∈ s.posted ∧ p.ticket = ticket ∧ p.holding = .held := by
  have found := List.find?_some h
  refine ⟨List.mem_of_find?_eq_some h, ?_⟩
  cases hh : p.holding <;> simp_all

namespace Holds

theorem eq_of_same (h : Holds s left) {p p' : PostedRequest} (hp : p ∈ s.posted)
    (hp' : p' ∈ s.posted) (hs : p.id.same p'.id = true) : p = p' := by
  have ids := List.pairwise_map.mp (List.pairwise_append.mp h.ids).1
  exact List.Pairwise.forall_of_forall_of_flip
    (R := fun p q : PostedRequest => p.id.same q.id = true → p = q)
    (fun _ _ _ => rfl) (ids.imp fun hd hs => by simp [hd] at hs)
    (ids.imp fun hd hs => by simp [Id.same_comm, hd] at hs) hp hp' hs

theorem eq_of_ticket (h : Holds s left) {p p' : PostedRequest} (hp : p ∈ s.posted)
    (hp' : p' ∈ s.posted) (ht : p.ticket = p'.ticket) : p = p' :=
  List.Pairwise.forall_of_forall_of_flip
    (R := fun p q : PostedRequest => p.ticket = q.ticket → p = q)
    (fun _ _ _ => rfl) (h.tickets.imp fun hd ht => absurd ht hd)
    (h.tickets.imp fun hd ht => absurd ht.symm hd) hp hp' ht

theorem ticket_of_same (h : Holds s left) (hp : p ∈ s.posted) (hq : q ∈ s.pool.entries)
    (hs : q.id.same p.id = true) : q.ticket = p.ticket := by
  obtain ⟨p', hp', ht, hid⟩ := h.entry q hq
  rw [← ht, h.eq_of_same hp' hp (hid ▸ hs)]

theorem id_of_ticket (h : Holds s left) (hp : p ∈ s.posted) (hq : q ∈ s.pool.entries)
    (ht : q.ticket = p.ticket) : q.id = p.id := by
  obtain ⟨p', hp', ht', hid⟩ := h.entry q hq
  rw [← hid, h.eq_of_ticket hp' hp (ht'.trans ht)]

/-- A change that keeps the posted requests and adds no entry. -/
theorem update (h : Holds s left) {t : Callers} {rest : Nat} (f : PostedRequest → PostedRequest)
    (posted : t.posted = s.posted.map f) (id : ∀ p, (f p).id = p.id)
    (ticket : ∀ p, (f p).ticket = p.ticket)
    (ids : (t.endpoint.ids.takeMany rest).Sublist (s.endpoint.ids.takeMany left))
    (sound : t.pool.Sound) (entries : ∀ q ∈ t.pool.entries, q ∈ s.pool.entries)
    (next : s.pool.nextTicket ≤ t.pool.nextTicket)
    (stands : ∀ p ∈ s.posted, p.Stands s.pool → (f p).Stands t.pool) : Holds t rest where
  sound := sound
  entry q hq := by
    obtain ⟨p, hp, ht, hid⟩ := h.entry q (entries q hq)
    exact ⟨f p, posted ▸ List.mem_map_of_mem hp, (ticket p).trans ht, (id p).trans hid⟩
  tickets := by
    rw [posted, List.pairwise_map]
    simpa only [ticket] using h.tickets
  below p hp := by
    rw [posted] at hp
    obtain ⟨r, hr, rfl⟩ := List.mem_map.mp hp
    rw [ticket]
    exact Nat.lt_of_lt_of_le (h.below r hr) next
  ids := by
    have same : (t.posted.map (·.id)) = s.posted.map (·.id) := by
      rw [posted, List.map_map]
      exact List.map_congr_left fun p _ => id p
    rw [same]
    exact h.ids.sublist (ids.append_left _)
  stands p hp := by
    rw [posted] at hp
    obtain ⟨r, hr, rfl⟩ := List.mem_map.mp hp
    exact stands r hr (h.stands r hr)

theorem keep (h : Holds s left) {t : Callers} (more : PostedRequest → List Outcome)
    (posted : t.posted = s.posted.map fun p => { p with offers := p.offers ++ more p })
    (ids : t.endpoint.ids = s.endpoint.ids) (pool : t.pool = s.pool)
    (late : ∀ p ∈ s.posted, ∀ q ∈ s.pool.entries, q.ticket = p.ticket → q.id = p.id →
      more p = []) : Holds t left := by
  refine h.update _ posted (fun _ => rfl) (fun _ => rfl) (ids ▸ List.Sublist.refl _)
    (pool ▸ h.sound) (fun q hq => pool ▸ hq) (pool ▸ Nat.le_refl _) fun p hp stands => ?_
  rw [pool]
  exact stands.offer (late p hp)

/-- An event that ends the request of one entry, and offers no other request that waits
anything. -/
theorem close (h : Holds s left) {t : Callers} (hq : q ∈ s.pool.entries) (outcome : Outcome)
    (more : PostedRequest → List Outcome)
    (posted : t.posted = s.posted.map fun p => { p with offers := p.offers ++ more p })
    (ids : t.endpoint.ids = s.endpoint.ids) (pool : t.pool = s.pool.close q (.filled outcome))
    (own : ∀ p ∈ s.posted, p.ticket = q.ticket → more p = [outcome])
    (late : ∀ p ∈ s.posted, p.ticket ≠ q.ticket → ∀ r ∈ s.pool.entries, r.ticket = p.ticket →
      r.id = p.id → more p = []) : Holds t left := by
  refine h.update _ posted (fun _ => rfl) (fun _ => rfl) (ids ▸ List.Sublist.refl _)
    (pool ▸ h.sound.close hq nofun) (fun r hr => (PendingPool.mem_entries_close.mp (pool ▸ hr)).1)
    (pool ▸ Nat.le_refl _) fun p hp stands => ?_
  rw [pool]
  by_cases ht : p.ticket = q.ticket
  · rw [own p hp ht]
    refine stands.complete (fun r hr => ?_) ?_
    · rw [ht]
      exact (PendingPool.mem_entries_close.mp hr).2
    · rw [ht]
      exact PendingPool.slot_close_self
  · refine (stands.offer (late p hp ht)).frame (fun r hr => ?_) ?_
    · rw [PendingPool.mem_entries_close]
      exact and_iff_left fun same => ht (hr.symm.trans same)
    · exact PendingPool.slot_close_of_ne ht

/-! ### Steps that complete requests -/

theorem response (h : Holds s left) (r : Response) : Holds (s.step (.response r)) left := by
  cases hf : s.pool.find? r.id with
  | none =>
    have taken := Endpoint.takeResponse_of_find?_none (e := s.endpoint) hf
    refine h.keep (fun p => (s.offer? p (.response r)).toList) rfl
      (congrArg (·.ids) taken) (congrArg (·.pool) taken) fun p hp q hq _ hid => ?_
    have other : p.id.same r.id = false := hid ▸ PendingPool.find?_eq_none.mp hf q hq
    simp [offer?, other]
  | some q =>
    obtain ⟨hq, hs⟩ := PendingPool.find?_eq_some hf
    have taken := Endpoint.takeResponse_of_find? (e := s.endpoint) hf
    refine h.close hq r.result (fun p => (s.offer? p (.response r)).toList) rfl
      (congrArg (·.ids) taken) (congrArg (·.pool) taken) (fun p hp ht => ?_)
      fun p hp ht q' hq' ht' hid => ?_
    · have same : p.id.same r.id = true := h.id_of_ticket hp hq ht.symm ▸ hs
      simp [offer?, same]
    · have other : p.id.same r.id = false := Bool.eq_false_iff.mpr fun same =>
        ht (h.ticket_of_same hp hq (Id.same_trans hs (Id.same_symm same))).symm
      simp [offer?, other]

theorem timer (h : Holds s left) (ticket : Nat) : Holds (s.step (.timer ticket)) left := by
  have acts : s.step (.timer ticket) = (s.noteOffers (.timer ticket)).act (.timer ticket) := rfl
  cases hd : s.due? ticket with
  | none =>
    have none : (s.noteOffers (.timer ticket)).due? ticket = none := hd
    rw [acts, act, none]
    refine h.keep (fun p => (s.offer? p (.timer ticket)).toList) rfl rfl rfl fun p _ _ _ _ _ => ?_
    simp [offer?, hd]
  | some t =>
    have due : t.ticket = ticket := by
      have found := List.find?_some
        (p := fun t : Timer => t.ticket == ticket && decide (t.deadline ≤ s.clock)) hd
      exact beq_iff_eq.mp (Bool.and_eq_true_iff.mp found).1
    obtain ⟨q, hq, hqt, expired⟩ := h.sound.expire_eq (List.mem_of_find?_eq_some hd)
    obtain ⟨-, own, -⟩ := PendingPool.timer?_eq_some.mp hqt
    have some : (s.noteOffers (.timer ticket)).due? ticket = some t := hd
    rw [acts, act, some]
    refine h.close hq (.error .timeout) (fun p => (s.offer? p (.timer ticket)).toList) rfl ?_ ?_
      (fun p hp ht => ?_) fun p hp ht _ _ _ _ => ?_
    · exact Endpoint.ids_expire t
    · exact (Endpoint.pool_expire t).trans (congrArg Prod.snd expired)
    · simp [offer?, hd, ht, own, due]
    · have other : ticket ≠ p.ticket := fun same => ht (by rw [own, due, same])
      simp [offer?, other]

/-- A stop, or the end of the loop, ends every request that waits. -/
theorem failAll (h : Holds s left) {t : Callers}
    (posted : t.posted = s.posted.map fun p =>
      { p with offers := p.offers ++ [.error .interrupted] })
    (ids : t.endpoint.ids = s.endpoint.ids) (pool : t.pool = s.pool.failAll .interrupted) :
    Holds t left := by
  have empty := h.sound.entries_failAll .interrupted
  refine h.update _ posted (fun _ => rfl) (fun _ => rfl) (ids ▸ List.Sublist.refl _)
    (pool ▸ h.sound.failAll _) (fun q hq => ?_)
    (pool ▸ Nat.le_of_eq (PendingPool.nextTicket_failAll _).symm) fun p hp stands => ?_
  · rw [pool, empty] at hq
    exact absurd hq List.not_mem_nil
  · rw [pool]
    refine stands.complete (fun q hq => ?_) (h.sound.slot_failAll _ _)
    rw [empty] at hq
    exact absurd hq List.not_mem_nil

/-! ### Steps of the callers -/

theorem hold (h : Holds s left) (hp : p ∈ s.posted) (holding : Holding) {e : Endpoint}
    (ids : e.ids = s.endpoint.ids) (sound : e.pool.Sound)
    (entries : ∀ q, q.ticket ≠ p.ticket → (q ∈ e.pool.entries ↔ q ∈ s.pool.entries))
    (own : ∀ q ∈ e.pool.entries, q.ticket = p.ticket → q ∈ s.pool.entries)
    (slots : ∀ t, t ≠ p.ticket → e.pool.slots.find? t = s.pool.slots.find? t)
    (next : e.pool.nextTicket = s.pool.nextTicket)
    (stands : { p with holding }.Stands e.pool) :
    Holds ((s.setEndpoint e).setHolding p.ticket holding) left := by
  refine h.update (fun r => if r.ticket = p.ticket then { r with holding } else r) rfl
    (fun r => ?_) (fun r => ?_) (ids ▸ List.Sublist.refl _) sound (fun q hq => ?_)
    (Nat.le_of_eq next.symm) fun r hr hstands => ?_
  · split <;> rfl
  · split <;> rfl
  · by_cases ht : q.ticket = p.ticket
    · exact own q hq ht
    · exact (entries q ht).mp hq
  · by_cases ht : r.ticket = p.ticket
    · rw [if_pos ht, h.eq_of_ticket hr hp ht]
      exact stands
    · rw [if_neg ht]
      exact hstands.frame (fun q hq => entries q (hq ▸ ht)) (slots _ ht)

theorem poll (h : Holds s left) (ticket : Nat) : Holds (s.step (.poll ticket)) left := by
  rw [step, noteOffers_of_none fun _ => rfl]
  cases hh : s.held? ticket with
  | none => simpa only [act, hh] using h
  | some p =>
    obtain ⟨hp, rfl, held⟩ := held?_eq_some hh
    simp only [act, hh, PostedRequest.call, Endpoint.poll_waiting]
    -- Only the slot of a request that is gone from the pool has an outcome to take.
    cases h.stands p hp with
    | waiting _ _ _ _ _ slot _ =>
      have vacant : s.endpoint.pool.slots.find? p.ticket = some .vacant := slot
      rw [vacant]
      exact h
    | filled o gone _ slot first =>
      have filled : s.endpoint.pool.slots.find? p.ticket = some (.filled o) := slot
      simp only [filled, Option.bind_some, Slot.outcome?]
      exact h.hold hp (.taken o) rfl (h.sound.eraseSlot _) (fun _ _ => Iff.rfl) (fun _ hq _ => hq)
        (fun t ht => Slots.find?_erase_of_ne ht) rfl (.taken o gone rfl first)
    | taken _ _ taken _ => simp [taken] at held
    | dropped _ dropped => simp [dropped] at held

theorem drop (h : Holds s left) (ticket : Nat) : Holds (s.step (.drop ticket)) left := by
  rw [step, noteOffers_of_none fun _ => rfl]
  cases hh : s.held? ticket with
  | none => simpa only [act, hh] using h
  | some p =>
    obtain ⟨hp, rfl, -⟩ := held?_eq_some hh
    have own : ∀ q ∈ s.pool.entries, q.id.same p.id = true ↔ q.ticket = p.ticket := fun q hq =>
      ⟨h.ticket_of_same hp hq, fun ht => h.id_of_ticket hp hq ht ▸ Id.same_refl _⟩
    have pool : (s.endpoint.drop p.call).pool = (s.pool.leave p.ticket p.id).2 :=
      Endpoint.pool_drop p.id p.ticket
    simp only [act, hh]
    refine h.hold hp .dropped (Endpoint.ids_leave _ _) ?_ (fun q ht => ?_) (fun q hq _ => ?_)
      (fun t ht => ?_) ?_ (.dropped (fun q hq => ?_) rfl)
    · rw [pool]
      exact h.sound.leave _ _
    · rw [pool, PendingPool.mem_entries_leave own]
      exact and_iff_left ht
    · rw [pool, PendingPool.mem_entries_leave own] at hq
      exact hq.1
    · rw [pool]
      exact PendingPool.slot_leave_of_ne own ht
    · rw [pool]
      exact PendingPool.nextTicket_leave _ _
    · rw [pool, PendingPool.mem_entries_leave own] at hq
      exact hq.2

/-! ### New requests -/

theorem enter (h : Holds s (left + 1)) {e : Endpoint} (r : Request) (resultType : String)
    (deadline : Option Nat) (hf : s.pool.find? r.id = none) (hid : r.id = s.endpoint.ids.take.1)
    (ids : e.ids = s.endpoint.ids.take.2) (pool : e.pool = s.pool.enter r resultType deadline) :
    Holds { s.setEndpoint e with
      posted := s.posted ++ [{ id := r.id, ticket := s.pool.nextTicket }] } left where
  sound := by
    show e.pool.Sound
    rw [pool]
    exact h.sound.enter resultType deadline hf
  entry q hq := by
    have hq : q ∈ (s.pool.enter r resultType deadline).entries := pool ▸ hq
    rcases List.mem_append.mp hq with hq | hq
    · obtain ⟨p, hp, found⟩ := h.entry q hq
      exact ⟨p, List.mem_append_left _ hp, found⟩
    · rw [List.mem_singleton.mp hq]
      exact ⟨_, List.mem_append_right _ List.mem_cons_self, rfl, rfl⟩
  tickets := by
    refine List.pairwise_append.mpr ⟨h.tickets, List.pairwise_singleton _ _, fun p hp q hq => ?_⟩
    rw [List.mem_singleton.mp hq]
    exact Nat.ne_of_lt (h.below p hp)
  below p hp := by
    have next : e.pool.nextTicket = s.pool.nextTicket + 1 := congrArg (·.nextTicket) pool
    show p.ticket < e.pool.nextTicket
    rw [next]
    rcases List.mem_append.mp hp with hp | hp
    · exact Nat.lt_succ_of_lt (h.below p hp)
    · rw [List.mem_singleton.mp hp]
      exact Nat.lt_succ_self _
  ids := by
    show ((s.posted ++ [_]).map PostedRequest.id ++ e.ids.takeMany left).Pairwise _
    have ids' := h.ids
    rw [IdSource.takeMany_succ, ← hid, ← ids] at ids'
    rwa [List.map_append, List.append_assoc]
  stands p hp := by
    show p.Stands e.pool
    rw [pool]
    rcases List.mem_append.mp hp with hp | hp
    · have older := Nat.ne_of_lt (h.below p hp)
      refine (h.stands p hp).frame (fun q hq => ?_) ?_
      · refine ⟨fun hmem => ?_, List.mem_append_left _⟩
        rcases List.mem_append.mp hmem with hmem | hmem
        · exact hmem
        · rw [List.mem_singleton.mp hmem] at hq
          exact absurd hq.symm older
      · simp only [PendingPool.enter, Slots.find?_append_single, if_neg older, Option.or_none]
    · rw [List.mem_singleton.mp hp]
      refine .waiting _ (List.mem_append_right _ List.mem_cons_self) rfl rfl rfl ?_ rfl
      simp only [PendingPool.enter, Slots.find?_append_single, h.sound.fresh _ (Nat.le_refl _),
        if_true, Option.none_or]

/-- A request that could not be posted leaves the pool as it was. -/
theorem takeBack (h : Holds s (left + 1)) {e : Endpoint} (r : Request) (resultType : String)
    (deadline : Option Nat) (hf : s.pool.find? r.id = none)
    (ids : e.ids = s.endpoint.ids.take.2)
    (pool : e.pool = ((s.pool.enter r resultType deadline).leave s.pool.nextTicket r.id).2) :
    Holds (s.setEndpoint e) left := by
  have own : ∀ q ∈ (s.pool.enter r resultType deadline).entries,
      q.id.same r.id = true ↔ q.ticket = s.pool.nextTicket := by
    intro q hq
    rcases List.mem_append.mp hq with hq | hq
    · simp [PendingPool.find?_eq_none.mp hf q hq, Nat.ne_of_lt (h.sound.below q hq)]
    · rw [List.mem_singleton.mp hq]
      exact iff_of_true (Id.same_refl _) rfl
  have stays : ∀ q, q ∈ e.pool.entries ↔ q ∈ s.pool.entries := by
    intro q
    rw [pool, PendingPool.mem_entries_leave own]
    constructor
    · rintro ⟨hq, ht⟩
      rcases List.mem_append.mp hq with hq | hq
      · exact hq
      · rw [List.mem_singleton.mp hq] at ht
        exact absurd rfl ht
    · intro hq
      exact ⟨List.mem_append_left _ hq, Nat.ne_of_lt (h.sound.below q hq)⟩
  refine h.update id (List.map_id _).symm (fun _ => rfl) (fun _ => rfl) ?_ ?_
    (fun q => (stays q).mp) ?_ fun p hp stands => ?_
  · show (e.ids.takeMany left).Sublist _
    rw [IdSource.takeMany_succ, ids]
    exact List.sublist_cons_self _ _
  · show e.pool.Sound
    rw [pool]
    exact (h.sound.enter resultType deadline hf).leave _ _
  · show _ ≤ e.pool.nextTicket
    rw [pool, PendingPool.nextTicket_leave]
    exact Nat.le_succ _
  · have older := Nat.ne_of_lt (h.below p hp)
    refine stands.frame (fun q _ => stays q) ?_
    show e.pool.slots.find? p.ticket = _
    rw [pool, PendingPool.slot_leave_of_ne own older]
    simp only [PendingPool.enter, Slots.find?_append_single, if_neg older, Option.or_none]

theorem request (h : Holds s (left + 1)) (method : String) (params : Option Value)
    (timeout : Option Duration) (resultType : String) :
    Holds (s.step (.request method params timeout resultType)) left := by
  rw [step, noteOffers_of_none fun _ => rfl]
  obtain ⟨-, eq⟩ | ⟨-, p, -, eq⟩ | ⟨-, hf, transport, -, eq⟩ | ⟨-, hf, err, -, eq⟩ :=
    s.endpoint.request_cases s.clock method params timeout resultType
  · rw [act, eq]
    exact h.update id (List.map_id _).symm (fun _ => rfl) (fun _ => rfl)
      (IdSource.takeMany_sublist _ _) h.sound (fun _ hq => hq) (Nat.le_refl _)
      fun _ _ stands => stands
  · rw [act, eq]
    exact h.update id (List.map_id _).symm (fun _ => rfl) (fun _ => rfl)
      (List.sublist_cons_self _ _) h.sound (fun _ hq => hq) (Nat.le_refl _)
      fun _ _ stands => stands
  · rw [act, eq]
    exact h.enter ⟨s.endpoint.ids.take.1, method, params⟩ resultType _ hf rfl rfl rfl
  · rw [act, eq]
    exact h.takeBack ⟨s.endpoint.ids.take.1, method, params⟩ resultType _ hf
      (Endpoint.ids_leave _ _) (Endpoint.pool_leave _ _)

/-! ### Runs -/

theorem step {e : CallEvent} (h : Holds s (left + requestCount [e])) : Holds (s.step e) left := by
  cases e with
  | request method params timeout resultType => exact h.request method params timeout resultType
  | response r => exact h.response r
  | timer ticket => exact h.timer ticket
  | poll ticket => exact h.poll ticket
  | drop ticket => exact h.drop ticket
  | stop => exact h.failAll rfl rfl rfl
  | loopExit => exact h.failAll rfl rfl rfl
  | pass span =>
    rw [Callers.step, noteOffers_of_none fun _ => rfl]
    exact h.keep (fun _ => []) (by simp [act]) rfl rfl fun _ _ _ _ _ _ => rfl
  | carry transport =>
    rw [Callers.step, noteOffers_of_none fun _ => rfl]
    exact h.keep (fun _ => []) (by simp [act, setEndpoint]) rfl rfl fun _ _ _ _ _ _ => rfl

theorem run (events : List CallEvent) (h : Holds s (left + requestCount events)) :
    Holds (s.run events) left := by
  induction events generalizing s with
  | nil => exact h
  | cons e events ih =>
    rw [requestCount_cons, ← Nat.add_assoc] at h
    exact ih h.step

end Holds

end Callers

end DuplexRpc

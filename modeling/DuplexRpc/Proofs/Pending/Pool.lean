import DuplexRpc.Proofs.Ids
import DuplexRpc.Proofs.Pending.Slot
import DuplexRpc.Pending.Pool

/-! Pools that are sound: no two entries share an id or a ticket, the timers are those of the
entries with a deadline, and the slots that are vacant are those of entries. Every operation of a
pool keeps it sound, and is a change of at most one entry and its slot, or of all of them. -/

namespace DuplexRpc

/-- The timer of an entry, none where it has no deadline. -/
def PendingRequest.timer? (p : PendingRequest) : Option Timer :=
  p.deadline.map fun d => ⟨p.ticket, p.id, d⟩

namespace PendingPool

/-- What holds of every pool that is used through its operations, whatever ids are handed out. -/
structure Sound (pool : PendingPool) : Prop where
  ids : pool.entries.Pairwise fun p q => p.id.same q.id = false
  tickets : pool.entries.Pairwise fun p q => p.ticket ≠ q.ticket
  timers : pool.timers = pool.entries.filterMap PendingRequest.timer?
  below : ∀ p ∈ pool.entries, p.ticket < pool.nextTicket
  fresh : ∀ t, pool.nextTicket ≤ t → pool.slots.find? t = none
  waits : ∀ p ∈ pool.entries, ∀ s, pool.slots.find? p.ticket = some s → s = .vacant
  vacant : ∀ t, pool.slots.find? t = some .vacant → ∃ p ∈ pool.entries, p.ticket = t

/-- Takes an entry out of the pool and settles its slot. -/
def close (pool : PendingPool) (p : PendingRequest) (slot : Slot) : PendingPool :=
  { pool.remove p with slots := pool.slots.settle p.ticket slot }

variable {pool : PendingPool} {p q : PendingRequest} {slot : Slot} {id : Id} {outcome : Outcome}

theorem sound_empty : Sound {} where
  ids := List.Pairwise.nil
  tickets := List.Pairwise.nil
  timers := rfl
  below _ h := absurd h List.not_mem_nil
  fresh _ _ := rfl
  waits _ h := absurd h List.not_mem_nil
  vacant _ h := by simp at h

/-! ### Looking up entries -/

theorem find?_eq_some (h : pool.find? id = some p) : p ∈ pool.entries ∧ p.id.same id = true :=
  ⟨List.mem_of_find?_eq_some h, List.find?_some (p := fun q : PendingRequest => q.id.same id) h⟩

theorem find?_eq_none : pool.find? id = none ↔ ∀ p ∈ pool.entries, p.id.same id = false := by
  simp [find?, List.find?_eq_none]

theorem contains_eq_false : pool.contains id = false ↔ ∀ p ∈ pool.entries, p.id.same id = false := by
  rw [← find?_eq_none, contains]
  exact Option.isSome_eq_false_iff.trans Option.isNone_iff_eq_none

theorem find?_congr {id' : Id} (h : id.same id' = true) : pool.find? id = pool.find? id' := by
  have same : ∀ p : PendingRequest, p.id.same id = p.id.same id' := by
    intro p
    rw [p.id.same_comm, p.id.same_comm, Id.same_congr h]
  simp only [find?, same]

theorem Sound.eq_of_same (h : Sound pool) (hp : p ∈ pool.entries) (hq : q ∈ pool.entries)
    (hs : p.id.same q.id = true) : p = q :=
  List.Pairwise.forall_of_forall_of_flip (R := fun p q => p.id.same q.id = true → p = q)
    (fun _ _ _ => rfl) (h.ids.imp fun hd hs => by simp [hd] at hs)
    (h.ids.imp fun hd hs => by simp [Id.same_comm, hd] at hs) hp hq hs

theorem Sound.eq_of_ticket (h : Sound pool) (hp : p ∈ pool.entries) (hq : q ∈ pool.entries)
    (ht : p.ticket = q.ticket) : p = q :=
  List.Pairwise.forall_of_forall_of_flip (R := fun p q => p.ticket = q.ticket → p = q)
    (fun _ _ _ => rfl) (h.tickets.imp fun hd ht => absurd ht hd)
    (h.tickets.imp fun hd ht => absurd ht.symm hd) hp hq ht

theorem Sound.find?_of_mem (h : Sound pool) (hp : p ∈ pool.entries) (hs : p.id.same id = true) :
    pool.find? id = some p := by
  cases hf : pool.find? id with
  | none => simp [find?_eq_none.mp hf p hp] at hs
  | some q =>
    obtain ⟨hq, hqs⟩ := find?_eq_some hf
    rw [h.eq_of_same hq hp (Id.same_trans hqs (Id.same_symm hs))]

/-! ### Taking an entry out -/

theorem complete_remove : (pool.remove p).complete p outcome = pool.close p (.filled outcome) := rfl

theorem abandon_remove : (pool.remove p).abandon p = pool.close p .abandoned := rfl

theorem mem_entries_close : q ∈ (pool.close p slot).entries ↔ q ∈ pool.entries ∧ q.ticket ≠ p.ticket := by
  simp [close, remove]

theorem slot_close_self : (pool.close p slot).slots.find? p.ticket =
    (pool.slots.find? p.ticket).map slot.settled :=
  Slots.find?_settle_self

theorem slot_close_of_ne {t : Nat} (h : t ≠ p.ticket) :
    (pool.close p slot).slots.find? t = pool.slots.find? t :=
  Slots.find?_settle_of_ne h

/-- The timers that are left when the timer of one ticket is disarmed are those of the entries with
another ticket. -/
theorem filterMap_timer?_filter (entries : List PendingRequest) (t : Nat) :
    (entries.filterMap PendingRequest.timer?).filter (·.ticket != t) =
      (entries.filter (·.ticket != t)).filterMap PendingRequest.timer? := by
  induction entries with
  | nil => rfl
  | cons p entries ih =>
    cases hd : p.deadline <;> by_cases ht : p.ticket = t <;>
      simp [PendingRequest.timer?, hd, ht, ih]

theorem Sound.close (h : Sound pool) (hp : p ∈ pool.entries) (hs : slot ≠ .vacant) :
    Sound (pool.close p slot) where
  ids := h.ids.filter _
  tickets := h.tickets.filter _
  timers := by
    simp only [PendingPool.close, remove, h.timers]
    exact filterMap_timer?_filter _ _
  below q hq := h.below q (mem_entries_close.mp hq).1
  fresh t ht := by
    rw [slot_close_of_ne (Nat.ne_of_gt (Nat.lt_of_lt_of_le (h.below p hp) ht))]
    exact h.fresh t ht
  waits q hq s hf := by
    obtain ⟨hq, hne⟩ := mem_entries_close.mp hq
    rw [slot_close_of_ne hne] at hf
    exact h.waits q hq s hf
  vacant t hf := by
    by_cases ht : t = p.ticket
    · subst ht
      rw [slot_close_self] at hf
      cases hv : pool.slots.find? p.ticket with
      | none => simp [hv] at hf
      | some s =>
        rw [hv, h.waits p hp s hv] at hf
        exact absurd (Option.some.inj hf) hs
    · rw [slot_close_of_ne ht] at hf
      obtain ⟨q, hq, rfl⟩ := h.vacant t hf
      exact ⟨q, mem_entries_close.mpr ⟨hq, ht⟩, rfl⟩

theorem finish_of_find? (h : pool.find? id = some p) :
    pool.finish id outcome = (some p, pool.close p (.filled outcome)) := by
  simp [finish, pop, h, complete_remove]

theorem finish_of_find?_none (h : pool.find? id = none) : pool.finish id outcome = (none, pool) := by
  simp [finish, pop, h]

theorem cancel_of_find? (h : pool.find? id = some p) :
    pool.cancel id = (some p, pool.close p .abandoned) := by
  simp [cancel, pop, h, abandon_remove]

theorem cancel_of_find?_none (h : pool.find? id = none) : pool.cancel id = (none, pool) := by
  simp [cancel, pop, h]

theorem Sound.finish (h : Sound pool) (id : Id) (outcome : Outcome) :
    Sound (pool.finish id outcome).2 := by
  cases hf : pool.find? id with
  | none => rwa [finish_of_find?_none hf]
  | some p =>
    rw [finish_of_find? hf]
    exact h.close (find?_eq_some hf).1 nofun

theorem Sound.cancel (h : Sound pool) (id : Id) : Sound (pool.cancel id).2 := by
  cases hf : pool.find? id with
  | none => rwa [cancel_of_find?_none hf]
  | some p =>
    rw [cancel_of_find? hf]
    exact h.close (find?_eq_some hf).1 nofun

/-! ### Timers -/

theorem timer?_eq_some {t : Timer} :
    p.timer? = some t ↔ p.deadline = some t.deadline ∧ p.ticket = t.ticket ∧ p.id = t.id := by
  obtain ⟨ticket, id, deadline⟩ := t
  cases hd : p.deadline with
  | none => simp [PendingRequest.timer?, hd]
  | some d => simp [PendingRequest.timer?, hd, and_comm, and_left_comm]

/-- The timer that runs out is that of the entry with its id, which ends by timeout. -/
theorem Sound.expire_eq (h : Sound pool) {t : Timer} (ht : t ∈ pool.timers) :
    ∃ p ∈ pool.entries, p.timer? = some t ∧
      pool.expire t = (some p, pool.close p (.filled (.error .timeout))) := by
  rw [h.timers, List.mem_filterMap] at ht
  obtain ⟨p, hp, hpt⟩ := ht
  obtain ⟨-, hticket, hid⟩ := timer?_eq_some.mp hpt
  refine ⟨p, hp, hpt, ?_⟩
  have hf : PendingPool.find? { pool with timers := pool.timers.filter (·.ticket != t.ticket) } t.id =
      some p := h.find?_of_mem hp (hid ▸ Id.same_refl _)
  rw [PendingPool.expire, finish_of_find? hf]
  simp [PendingPool.close, remove, hticket, List.filter_filter]

theorem Sound.expire (h : Sound pool) {t : Timer} (ht : t ∈ pool.timers) :
    Sound (pool.expire t).2 := by
  obtain ⟨p, hp, -, he⟩ := h.expire_eq ht
  rw [he]
  exact h.close hp nofun

/-! ### Ending all entries -/

/-- Entries closed one after the other: they alone are gone, and their slots are settled. -/
theorem Sound.foldl_close (h : Sound pool) (slot : Slot) {closed : List PendingRequest}
    (hmem : ∀ p ∈ closed, p ∈ pool.entries) (hne : closed.Pairwise fun p q => p.ticket ≠ q.ticket)
    (hs : slot ≠ .vacant) :
    Sound (closed.foldl (fun pool p => pool.close p slot) pool) ∧
      (∀ q, q ∈ (closed.foldl (fun pool p => pool.close p slot) pool).entries ↔
        q ∈ pool.entries ∧ ∀ p ∈ closed, q.ticket ≠ p.ticket) ∧
      ∀ t, (closed.foldl (fun pool p => pool.close p slot) pool).slots.find? t =
        if t ∈ closed.map (·.ticket) then (pool.slots.find? t).map slot.settled
        else pool.slots.find? t := by
  induction closed generalizing pool with
  | nil => exact ⟨h, by simp, by simp⟩
  | cons p closed ih =>
    obtain ⟨hp, hne⟩ := List.pairwise_cons.mp hne
    have stays : ∀ q ∈ closed, q ∈ (pool.close p slot).entries := fun q hq =>
      mem_entries_close.mpr ⟨hmem q (List.mem_cons_of_mem _ hq), (hp q hq).symm⟩
    obtain ⟨sound, entries, slots⟩ := ih (h.close (hmem p List.mem_cons_self) hs) stays hne
    refine ⟨sound, fun q => ?_, fun t => ?_⟩
    · rw [List.foldl_cons, entries, mem_entries_close, List.forall_mem_cons, and_assoc]
    · rw [List.foldl_cons, slots]
      by_cases ht : t = p.ticket
      · have fresh : t ∉ closed.map (·.ticket) := by
          simp only [List.mem_map, not_exists, not_and]
          exact fun q hq hqt => hp q hq (ht ▸ hqt.symm)
        rw [if_neg fresh, if_pos (by simp [ht]), ht, slot_close_self]
      · simp [ht, slot_close_of_ne]

theorem failAll_eq (pool : PendingPool) (e : RpcError) :
    pool.failAll e = pool.entries.foldl (fun pool p => pool.close p (.filled (.error e))) pool := rfl

theorem nextTicket_failAll (e : RpcError) : (pool.failAll e).nextTicket = pool.nextTicket := by
  suffices same : ∀ (closed : List PendingRequest) (pool : PendingPool),
      (closed.foldl (fun pool p => pool.close p (.filled (.error e))) pool).nextTicket =
        pool.nextTicket from same _ _
  intro closed
  induction closed with
  | nil => exact fun _ => rfl
  | cons p closed ih => exact fun pool => ih (pool.close p _)

/-- Entries that are looked up by their ids, and closed one after the other. -/
theorem Sound.foldl_finish (h : Sound pool) (outcome : Outcome) {closed : List PendingRequest}
    (hmem : ∀ p ∈ closed, p ∈ pool.entries) (hne : closed.Pairwise fun p q => p.ticket ≠ q.ticket) :
    (closed.map (·.id)).foldl (fun pool id => (pool.finish id outcome).2) pool =
      closed.foldl (fun pool p => pool.close p (.filled outcome)) pool := by
  induction closed generalizing pool with
  | nil => rfl
  | cons p closed ih =>
    obtain ⟨hp, hne⟩ := List.pairwise_cons.mp hne
    have mem := hmem p List.mem_cons_self
    have stays : ∀ q ∈ closed, q ∈ (pool.close p (.filled outcome)).entries := fun q hq =>
      mem_entries_close.mpr ⟨hmem q (List.mem_cons_of_mem _ hq), (hp q hq).symm⟩
    rw [List.map_cons, List.foldl_cons, finish_of_find? (h.find?_of_mem mem (Id.same_refl _))]
    exact ih (h.close mem nofun) stays hne

/-- All requests fail whose ids were collected before. -/
theorem Sound.foldl_finish_ids (h : Sound pool) (e : RpcError) :
    (pool.entries.map (·.id)).foldl (fun pool id => (pool.finish id (.error e)).2) pool =
      pool.failAll e :=
  h.foldl_finish (.error e) (fun _ hp => hp) h.tickets

theorem Sound.failAll (h : Sound pool) (e : RpcError) : Sound (pool.failAll e) :=
  (h.foldl_close (.filled (.error e)) (fun _ hp => hp) h.tickets nofun).1

theorem Sound.entries_failAll (h : Sound pool) (e : RpcError) : (pool.failAll e).entries = [] := by
  have entries := (h.foldl_close (.filled (.error e)) (fun _ hp => hp) h.tickets nofun).2.1
  refine List.eq_nil_iff_forall_not_mem.mpr fun q hq => ?_
  obtain ⟨hq, hne⟩ := (entries q).mp hq
  exact hne q hq rfl

/-- Every vacant slot is filled with the error, and every other slot stays as it is. -/
theorem Sound.slot_failAll (h : Sound pool) (e : RpcError) (t : Nat) :
    (pool.failAll e).slots.find? t =
      (pool.slots.find? t).map (Slot.settled (.filled (.error e))) := by
  rw [failAll_eq, (h.foldl_close (.filled (.error e)) (fun _ hp => hp) h.tickets nofun).2.2]
  split
  · rfl
  · rename_i hne
    cases hf : pool.slots.find? t with
    | none => rfl
    | some s =>
      cases s with
      | vacant =>
        obtain ⟨p, hp, rfl⟩ := h.vacant t hf
        exact absurd (List.mem_map_of_mem hp) hne
      | filled _ => rfl
      | abandoned => rfl

/-! ### Slots that go -/

/-- A slot that is taken or left changes nothing else. -/
theorem Sound.eraseSlot (h : Sound pool) (t : Nat) :
    Sound { pool with slots := pool.slots.erase t } where
  ids := h.ids
  tickets := h.tickets
  timers := h.timers
  below := h.below
  fresh u hu := by
    by_cases hut : u = t
    · subst hut
      exact Slots.find?_erase_self
    · rw [Slots.find?_erase_of_ne hut]
      exact h.fresh u hu
  waits p hp s hf := by
    by_cases hpt : p.ticket = t
    · rw [hpt, Slots.find?_erase_self] at hf
      cases hf
    · rw [Slots.find?_erase_of_ne hpt] at hf
      exact h.waits p hp s hf
  vacant u hf := by
    by_cases hut : u = t
    · rw [hut, Slots.find?_erase_self] at hf
      cases hf
    · rw [Slots.find?_erase_of_ne hut] at hf
      exact h.vacant u hf

theorem Sound.poll (h : Sound pool) (t : Nat) : Sound (pool.poll t).2 := by
  unfold PendingPool.poll
  split
  · exact h.eraseSlot t
  · exact h

theorem Sound.leave (h : Sound pool) (t : Nat) (id : Id) : Sound (pool.leave t id).2 :=
  (h.eraseSlot t).cancel id

theorem leave_of_find? {ticket : Nat} (h : pool.find? id = some p) :
    pool.leave ticket id =
      (some p, { pool with slots := pool.slots.erase ticket }.close p .abandoned) :=
  cancel_of_find? h

theorem leave_of_find?_none {ticket : Nat} (h : pool.find? id = none) :
    pool.leave ticket id = (none, { pool with slots := pool.slots.erase ticket }) :=
  cancel_of_find?_none h

theorem nextTicket_leave (ticket : Nat) (id : Id) :
    (pool.leave ticket id).2.nextTicket = pool.nextTicket := by
  cases hf : pool.find? id with
  | none => rw [leave_of_find?_none hf]
  | some p => rw [leave_of_find? hf]; rfl

/-- Where an id and a ticket are those of one entry, or of none, a caller who leaves takes that
entry alone. -/
theorem mem_entries_leave {ticket : Nat}
    (hid : ∀ p ∈ pool.entries, p.id.same id = true ↔ p.ticket = ticket) :
    q ∈ (pool.leave ticket id).2.entries ↔ q ∈ pool.entries ∧ q.ticket ≠ ticket := by
  cases hf : pool.find? id with
  | none =>
    rw [leave_of_find?_none hf]
    refine ⟨fun hq => ⟨hq, fun ht => ?_⟩, And.left⟩
    have same := (hid q hq).mpr ht
    rw [find?_eq_none.mp hf q hq] at same
    exact absurd same Bool.false_ne_true
  | some p =>
    obtain ⟨hp, hs⟩ := find?_eq_some hf
    rw [leave_of_find? hf, mem_entries_close, (hid p hp).mp hs]

theorem slot_leave_of_ne {ticket t : Nat}
    (hid : ∀ p ∈ pool.entries, p.id.same id = true ↔ p.ticket = ticket) (ht : t ≠ ticket) :
    (pool.leave ticket id).2.slots.find? t = pool.slots.find? t := by
  cases hf : pool.find? id with
  | none => rw [leave_of_find?_none hf, Slots.find?_erase_of_ne ht]
  | some p =>
    obtain ⟨hp, hs⟩ := find?_eq_some hf
    rw [leave_of_find? hf, slot_close_of_ne (by rwa [(hid p hp).mp hs]),
      Slots.find?_erase_of_ne ht]

/-! ### New entries -/

theorem Sound.enter (h : Sound pool) {r : Request} (resultType : String) (deadline : Option Nat)
    (hf : pool.find? r.id = none) : Sound (pool.enter r resultType deadline) where
  ids := by
    refine List.pairwise_append.mpr ⟨h.ids, List.pairwise_singleton _ _, fun p hp q hq => ?_⟩
    rw [List.mem_singleton.mp hq]
    exact find?_eq_none.mp hf p hp
  tickets := by
    refine List.pairwise_append.mpr ⟨h.tickets, List.pairwise_singleton _ _, fun p hp q hq => ?_⟩
    rw [List.mem_singleton.mp hq]
    exact Nat.ne_of_lt (h.below p hp)
  timers := by
    simp only [PendingPool.enter, h.timers, List.filterMap_append]
    cases deadline <;> rfl
  below p hp := by
    rcases List.mem_append.mp hp with hp | hp
    · exact Nat.lt_succ_of_lt (h.below p hp)
    · rw [List.mem_singleton.mp hp]
      exact Nat.lt_succ_self _
  fresh t ht := by
    have lt : pool.nextTicket < t := ht
    simp only [PendingPool.enter, Slots.find?_append_single, h.fresh t (Nat.le_of_lt lt),
      if_neg (Nat.ne_of_gt lt), Option.or_none]
  waits p hp s hs := by
    simp only [PendingPool.enter, Slots.find?_append_single] at hs
    rcases List.mem_append.mp hp with hp | hp
    · rw [if_neg (Nat.ne_of_lt (h.below p hp)), Option.or_none] at hs
      exact h.waits p hp s hs
    · rw [List.mem_singleton.mp hp, h.fresh _ (Nat.le_refl _), Option.none_or, if_pos rfl] at hs
      exact (Option.some.inj hs).symm
  vacant t hs := by
    simp only [PendingPool.enter, Slots.find?_append_single] at hs
    by_cases ht : t = pool.nextTicket
    · exact ⟨_, List.mem_append_right _ List.mem_cons_self, ht.symm⟩
    · rw [if_neg ht, Option.or_none] at hs
      obtain ⟨p, hp, hpt⟩ := h.vacant t hs
      exact ⟨p, List.mem_append_left _ hp, hpt⟩

/-- A request that is taken back leaves nothing behind but its ticket, which is used up. -/
theorem leave_enter (h : Sound pool) {r : Request} (free : pool.find? r.id = none)
    (resultType : String) (deadline : Option Nat) :
    ((pool.enter r resultType deadline).leave pool.nextTicket r.id).2 =
      { pool with nextTicket := pool.nextTicket + 1 } := by
  have fresh := h.fresh pool.nextTicket (Nat.le_refl _)
  have older : ∀ p ∈ pool.entries, (p.ticket != pool.nextTicket) = true := fun p hp =>
    bne_iff_ne.mpr (Nat.ne_of_lt (h.below p hp))
  have entries : pool.entries.filter (·.ticket != pool.nextTicket) = pool.entries :=
    List.filter_eq_self.mpr older
  have timers : pool.timers.filter (·.ticket != pool.nextTicket) = pool.timers := by
    rw [h.timers, filterMap_timer?_filter, entries]
  have slots : (pool.slots ++ [(pool.nextTicket, Slot.vacant)]).filter (·.1 != pool.nextTicket) =
      pool.slots := by
    rw [List.filter_append, ← Slots.erase, Slots.erase_of_find?_none fresh]
    simp
  have found : (pool.enter r resultType deadline).find? r.id =
      some { request := r, resultType, deadline, ticket := pool.nextTicket } :=
    (h.enter resultType deadline free).find?_of_mem (List.mem_append_right _ List.mem_cons_self)
      (Id.same_refl _)
  have own : ((deadline.map fun d => (⟨pool.nextTicket, r.id, d⟩ : Timer)).toList).filter
      (·.ticket != pool.nextTicket) = [] := by
    cases deadline <;> simp
  rw [leave_of_find? found]
  simp only [close, remove, enter, Slots.erase, List.filter_append, entries, timers, own, slots]
  simp [Slots.settle_of_find?_none fresh]

/-! ### Pools that lose entries -/

theorem entries_close (pool : PendingPool) (p : PendingRequest) (slot : Slot) :
    (pool.close p slot).entries ⊆ pool.entries :=
  fun _ mem => (mem_entries_close.mp mem).1

theorem entries_finish (pool : PendingPool) (id : Id) (outcome : Outcome) :
    (pool.finish id outcome).2.entries ⊆ pool.entries := by
  cases found : pool.find? id with
  | none => simp [finish_of_find?_none found]
  | some p =>
    rw [finish_of_find? found]
    exact pool.entries_close p _

/-- No request is left that has the id of one that is finished. -/
theorem Sound.mem_finish (h : Sound pool) (hp : p ∈ (pool.finish id outcome).2.entries) :
    p ∈ pool.entries ∧ p.id.same id = false := by
  refine ⟨entries_finish pool id outcome hp, Bool.eq_false_iff.mpr fun same => ?_⟩
  rw [finish_of_find? (h.find?_of_mem (entries_finish pool id outcome hp) same)] at hp
  exact (mem_entries_close.mp hp).2 rfl

theorem entries_cancel (pool : PendingPool) (id : Id) :
    (pool.cancel id).2.entries ⊆ pool.entries := by
  cases found : pool.find? id with
  | none => simp [cancel_of_find?_none found]
  | some p =>
    rw [cancel_of_find? found]
    exact pool.entries_close p _

theorem entries_leave (pool : PendingPool) (ticket : Nat) (id : Id) :
    (pool.leave ticket id).2.entries ⊆ pool.entries :=
  entries_cancel _ id

theorem entries_failAll (pool : PendingPool) (err : RpcError) :
    (pool.failAll err).entries ⊆ pool.entries := by
  suffices fewer : ∀ (closed : List PendingRequest) (pool : PendingPool),
      (closed.foldl (fun pool p => pool.close p (.filled (.error err))) pool).entries ⊆
        pool.entries from fewer pool.entries pool
  intro closed
  induction closed with
  | nil => simp
  | cons p closed ih => exact fun pool => List.Subset.trans (ih _) (pool.entries_close p _)

end PendingPool

end DuplexRpc

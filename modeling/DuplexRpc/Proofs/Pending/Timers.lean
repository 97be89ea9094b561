import DuplexRpc.Endpoint.Basic
import DuplexRpc.Proofs.Pending.Pool
import Mathlib.Logic.ExistsUnique

/-! The timers of a pool over all runs of its operations, each taken as one step, whatever ids the
requests have. A timer is armed as long as its own entry is in the pool, so it never ends a later
request that has the same id, and what ends by timeout has waited for its whole timeout. -/

namespace DuplexRpc

/-- A request that was added to a pool. -/
structure Addition where
  ticket : Nat
  id : Id
  postedAt : Nat
  timeout : Option Duration

def Addition.deadline (a : Addition) : Option Nat :=
  Endpoint.deadline a.postedAt a.timeout

/-- A pool with the clock, and what was added to it so far. -/
structure TimedPool where
  pool : PendingPool := {}
  clock : Nat := 0
  added : List Addition := []

/-- An operation of a pool, or time that goes on. -/
inductive PoolEvent where
  | add (request : Request) (resultType : String) (timeout : Option Duration)
  | resolve (r : Response)
  /-- The entry of an id is taken out, and at once completed or dropped. -/
  | pop (id : Id) (outcome : Option Outcome)
  | failAll (e : RpcError)
  /-- The caller of a ticket takes the outcome. -/
  | poll (ticket : Nat)
  /-- The guard of a ticket and an id is dropped. -/
  | leave (ticket : Nat) (id : Id)
  /-- The timer of a ticket runs out, if it is armed and its time has come. -/
  | expire (ticket : Nat)
  | pass (span : Nat)

/-- The outcome that an operation brings along for the entries that it completes. -/
def PoolEvent.brings? : PoolEvent → Option Outcome
  | .resolve r => some r.result
  | .pop _ outcome => outcome
  | .failAll e => some (.error e)
  | _ => none

namespace TimedPool

variable {s : TimedPool} {p q : PendingRequest} {t : Timer} {a : Addition}

/-- The timer of a ticket if its time has come. -/
def due? (s : TimedPool) (ticket : Nat) : Option Timer :=
  s.pool.timers.find? fun t => t.ticket == ticket && t.deadline ≤ s.clock

def add (s : TimedPool) (r : Request) (resultType : String) (timeout : Option Duration) :
    TimedPool :=
  match s.pool.add r resultType (Endpoint.deadline s.clock timeout) with
  | .ok (ticket, pool) => { s with pool, added := s.added ++ [⟨ticket, r.id, s.clock, timeout⟩] }
  | .error _ => s

def step (s : TimedPool) : PoolEvent → TimedPool
  | .add r resultType timeout => s.add r resultType timeout
  | .resolve r => { s with pool := (s.pool.resolve r).2 }
  | .pop id (some outcome) => { s with pool := (s.pool.finish id outcome).2 }
  | .pop id none => { s with pool := (s.pool.cancel id).2 }
  | .failAll e => { s with pool := s.pool.failAll e }
  | .poll ticket => { s with pool := (s.pool.poll ticket).2 }
  | .leave ticket id => { s with pool := (s.pool.leave ticket id).2 }
  | .expire ticket =>
    match s.due? ticket with
    | some t => { s with pool := (s.pool.expire t).2 }
    | none => s
  | .pass span => { s with clock := s.clock + span }

def run (s : TimedPool) (events : List PoolEvent) : TimedPool :=
  events.foldl step s

/-! ### What a run keeps -/

/-- The pool is sound, and every entry is that of an addition, with its id and its deadline. -/
structure Holds (s : TimedPool) : Prop where
  sound : s.pool.Sound
  distinct : s.added.Pairwise fun a b => a.ticket ≠ b.ticket
  below : ∀ a ∈ s.added, a.ticket < s.pool.nextTicket
  entered : ∀ p ∈ s.pool.entries,
    ∃ a ∈ s.added, a.ticket = p.ticket ∧ a.id = p.id ∧ a.deadline = p.deadline

/-- The pools that come after one where nothing is added: no ticket is handed out, and entries only
go. -/
structure Fewer (pool pool' : PendingPool) : Prop where
  sound : pool'.Sound
  next : pool'.nextTicket = pool.nextTicket
  sub : ∀ p ∈ pool'.entries, p ∈ pool.entries

theorem Fewer.self {pool : PendingPool} (h : pool.Sound) : Fewer pool pool :=
  ⟨h, rfl, fun _ hp => hp⟩

theorem Fewer.close {pool : PendingPool} {slot : Slot} (h : pool.Sound) (hp : p ∈ pool.entries)
    (hs : slot ≠ .vacant) : Fewer pool (pool.close p slot) :=
  ⟨h.close hp hs, rfl, fun _ hq => (PendingPool.mem_entries_close.mp hq).1⟩

theorem fewer_finish {pool : PendingPool} (h : pool.Sound) (id : Id) (outcome : Outcome) :
    Fewer pool (pool.finish id outcome).2 := by
  cases hf : pool.find? id with
  | none => rw [PendingPool.finish_of_find?_none hf]; exact .self h
  | some p =>
    rw [PendingPool.finish_of_find? hf]
    exact .close h (PendingPool.find?_eq_some hf).1 nofun

theorem fewer_cancel {pool : PendingPool} (h : pool.Sound) (id : Id) :
    Fewer pool (pool.cancel id).2 := by
  cases hf : pool.find? id with
  | none => rw [PendingPool.cancel_of_find?_none hf]; exact .self h
  | some p =>
    rw [PendingPool.cancel_of_find? hf]
    exact .close h (PendingPool.find?_eq_some hf).1 nofun

theorem add_of_find? {r : Request} (resultType : String) (timeout : Option Duration)
    (h : s.pool.find? r.id = some p) : s.add r resultType timeout = s := by
  simp [add, PendingPool.add, h]

theorem add_of_find?_none {r : Request} (resultType : String) (timeout : Option Duration)
    (h : s.pool.find? r.id = none) : s.add r resultType timeout =
      { s with
        pool := s.pool.enter r resultType (Endpoint.deadline s.clock timeout)
        added := s.added ++ [⟨s.pool.nextTicket, r.id, s.clock, timeout⟩] } := by
  simp [add, PendingPool.add, h]

theorem due?_eq_some {ticket : Nat} (h : s.due? ticket = some t) :
    t ∈ s.pool.timers ∧ t.ticket = ticket ∧ t.deadline ≤ s.clock := by
  have test := List.find?_some h
  simp only [Bool.and_eq_true, beq_iff_eq, decide_eq_true_eq] at test
  exact ⟨List.mem_of_find?_eq_some h, test⟩

/-- Every step enters a request under an id that does not wait, or leaves at most the entries that
were there. -/
theorem Holds.step_cases (h : s.Holds) (ev : PoolEvent) :
    (∃ r resultType timeout, ev = .add r resultType timeout ∧ s.pool.find? r.id = none) ∨
      ∃ pool clock, Fewer s.pool pool ∧ s.step ev = { s with pool, clock } := by
  cases ev with
  | add r resultType timeout =>
    cases hf : s.pool.find? r.id with
    | some p => exact .inr ⟨_, _, .self h.sound, add_of_find? _ _ hf⟩
    | none => exact .inl ⟨r, resultType, timeout, rfl, hf⟩
  | resolve r => exact .inr ⟨_, _, fewer_finish h.sound r.id r.result, rfl⟩
  | pop id outcome =>
    cases outcome with
    | some outcome => exact .inr ⟨_, _, fewer_finish h.sound id outcome, rfl⟩
    | none => exact .inr ⟨_, _, fewer_cancel h.sound id, rfl⟩
  | failAll e =>
    refine .inr ⟨_, _, ⟨h.sound.failAll e, PendingPool.nextTicket_failAll e, ?_⟩, rfl⟩
    simp [h.sound.entries_failAll e]
  | poll ticket =>
    refine .inr ⟨_, _, ⟨h.sound.poll ticket, ?_, ?_⟩, rfl⟩ <;> unfold PendingPool.poll
    · split <;> rfl
    · intro p hp
      split at hp <;> exact hp
  | leave ticket id =>
    have left := fewer_cancel (h.sound.eraseSlot ticket) id
    exact .inr ⟨_, _, ⟨left.sound, left.next, left.sub⟩, rfl⟩
  | expire ticket =>
    cases hd : s.due? ticket with
    | none => exact .inr ⟨s.pool, s.clock, .self h.sound, by simp only [TimedPool.step, hd]⟩
    | some t =>
      obtain ⟨p, hp, -, he⟩ := h.sound.expire_eq (due?_eq_some hd).1
      have fewer : Fewer s.pool (s.pool.close p (.filled (.error .timeout))) :=
        .close h.sound hp nofun
      exact .inr ⟨_, s.clock, fewer, by simp only [TimedPool.step, hd, he]⟩
  | pass span => exact .inr ⟨_, _, .self h.sound, rfl⟩

theorem Holds.enter (h : s.Holds) {r : Request} (resultType : String) (timeout : Option Duration)
    (hf : s.pool.find? r.id = none) : (s.add r resultType timeout).Holds := by
  rw [add_of_find?_none _ _ hf]
  constructor
  · exact h.sound.enter _ _ hf
  · refine List.pairwise_append.mpr ⟨h.distinct, List.pairwise_singleton _ _, fun a ha b hb => ?_⟩
    rw [List.mem_singleton.mp hb]
    exact Nat.ne_of_lt (h.below a ha)
  · intro a ha
    rcases List.mem_append.mp ha with ha | ha
    · exact Nat.lt_succ_of_lt (h.below a ha)
    · rw [List.mem_singleton.mp ha]
      exact Nat.lt_succ_self _
  · intro p hp
    rcases List.mem_append.mp hp with hp | hp
    · obtain ⟨a, ha, eq⟩ := h.entered p hp
      exact ⟨a, List.mem_append_left _ ha, eq⟩
    · rw [List.mem_singleton.mp hp]
      exact ⟨_, List.mem_append_right _ List.mem_cons_self, rfl, rfl, rfl⟩

theorem Holds.step (h : s.Holds) (ev : PoolEvent) : (s.step ev).Holds := by
  obtain ⟨r, resultType, timeout, rfl, hf⟩ | ⟨pool, clock, fewer, he⟩ := h.step_cases ev
  · exact h.enter resultType timeout hf
  · rw [he]
    constructor
    · exact fewer.sound
    · exact h.distinct
    · intro a ha
      show a.ticket < pool.nextTicket
      rw [fewer.next]
      exact h.below a ha
    · exact fun p hp => h.entered p (fewer.sub p hp)

theorem Holds.run (h : s.Holds) (events : List PoolEvent) : (s.run events).Holds := by
  induction events generalizing s with
  | nil => exact h
  | cons ev events ih => exact ih (h.step ev)

/-! ### What a step can do -/

/-- A timer was armed for an entry. -/
structure Guards (t : Timer) (p : PendingRequest) : Prop where
  ticket : p.ticket = t.ticket
  id : p.id = t.id
  deadline : p.deadline = some t.deadline

theorem guards_iff : Guards t p ↔ p.timer? = some t := by
  rw [PendingPool.timer?_eq_some]
  exact ⟨fun h => ⟨h.deadline, h.ticket, h.id⟩, fun h => ⟨h.2.1, h.2.2, h.1⟩⟩

theorem mem_timers {pool : PendingPool} (h : pool.Sound) :
    t ∈ pool.timers ↔ ∃ p ∈ pool.entries, Guards t p := by
  simp only [h.timers, List.mem_filterMap, guards_iff]

theorem Holds.eq_of_ticket (h : s.Holds) {b : Addition} (ha : a ∈ s.added) (hb : b ∈ s.added)
    (ht : a.ticket = b.ticket) : a = b :=
  List.Pairwise.forall_of_forall_of_flip (R := fun a b => a.ticket = b.ticket → a = b)
    (fun _ _ _ => rfl) (h.distinct.imp fun hd ht => absurd ht hd)
    (h.distinct.imp fun hd ht => absurd ht.symm hd) ha hb ht

/-- The timer of a ticket that runs out ends the entry with that ticket. -/
theorem Holds.expire_of_due (h : s.Holds) (ht : t ∈ s.pool.timers) (hd : t.deadline ≤ s.clock) :
    ∃ p ∈ s.pool.entries, Guards t p ∧
      s.step (.expire t.ticket) = { s with pool := s.pool.close p (.filled (.error .timeout)) } := by
  cases hdue : s.due? t.ticket with
  | none =>
    have test := List.find?_eq_none.mp hdue t ht
    simp [hd] at test
  | some u =>
    obtain ⟨hu, hticket, -⟩ := due?_eq_some hdue
    obtain ⟨p, hp, hpu, he⟩ := h.sound.expire_eq hu
    obtain ⟨q, hq, hqt⟩ := (mem_timers h.sound).mp ht
    have same : p = q := by
      refine h.sound.eq_of_ticket hp hq ?_
      rw [(guards_iff.mpr hpu).ticket, hticket, hqt.ticket]
    refine ⟨p, hp, same ▸ hqt, ?_⟩
    simp only [TimedPool.step, hdue, he]

theorem expire_of_not_due {ticket : Nat}
    (h : ∀ t ∈ s.pool.timers, t.ticket = ticket → s.clock < t.deadline) :
    s.step (.expire ticket) = s := by
  have none : s.due? ticket = none := by
    refine List.find?_eq_none.mpr fun t ht => ?_
    simp only [Bool.and_eq_true, beq_iff_eq, decide_eq_true_eq, not_and, Nat.not_le]
    exact h t ht
  simp only [step, none]

/-- Whatever happens to the timer of a ticket, no other ticket is concerned. -/
theorem Holds.expire_cases (h : s.Holds) (ticket : Nat) :
    s.step (.expire ticket) = s ∨
      ∃ p ∈ s.pool.entries, ∃ n, p.ticket = ticket ∧ p.deadline = some n ∧ n ≤ s.clock ∧
        s.step (.expire ticket) =
          { s with pool := s.pool.close p (.filled (.error .timeout)) } := by
  by_cases hd : ∃ t ∈ s.pool.timers, t.ticket = ticket ∧ t.deadline ≤ s.clock
  · obtain ⟨t, ht, rfl, hd⟩ := hd
    obtain ⟨p, hp, guards, he⟩ := h.expire_of_due ht hd
    exact .inr ⟨p, hp, _, guards.ticket, guards.deadline, hd, he⟩
  · simp only [not_exists, not_and, Nat.not_le] at hd
    exact .inl (expire_of_not_due hd)

theorem filled_close {pool : PendingPool} {slot : Slot} {ticket : Nat} {outcome : Outcome}
    (hf : (pool.close p slot).slots.find? ticket = some (.filled outcome)) :
    pool.slots.find? ticket = some (.filled outcome) ∨
      ticket = p.ticket ∧ slot = .filled outcome := by
  by_cases ht : ticket = p.ticket
  · subst ht
    rw [PendingPool.slot_close_self] at hf
    obtain ⟨old, ho, hs⟩ := Option.map_eq_some_iff.mp hf
    cases old with
    | vacant => exact .inr ⟨rfl, hs⟩
    | filled _ => exact .inl (hs ▸ ho)
    | abandoned => cases hs
  · rw [PendingPool.slot_close_of_ne ht] at hf
    exact .inl hf

theorem filled_finish {pool : PendingPool} {id : Id} {ticket : Nat} {outcome o : Outcome}
    (hf : (pool.finish id o).2.slots.find? ticket = some (.filled outcome)) :
    pool.slots.find? ticket = some (.filled outcome) ∨ o = outcome := by
  cases he : pool.find? id with
  | none =>
    rw [PendingPool.finish_of_find?_none he] at hf
    exact .inl hf
  | some p =>
    rw [PendingPool.finish_of_find? he] at hf
    exact (filled_close hf).imp_right fun ⟨_, hs⟩ => Slot.filled.inj hs

theorem filled_cancel {pool : PendingPool} {id : Id} {ticket : Nat} {outcome : Outcome}
    (hf : (pool.cancel id).2.slots.find? ticket = some (.filled outcome)) :
    pool.slots.find? ticket = some (.filled outcome) := by
  cases he : pool.find? id with
  | none => rwa [PendingPool.cancel_of_find?_none he] at hf
  | some p =>
    rw [PendingPool.cancel_of_find? he] at hf
    exact (filled_close hf).resolve_right nofun

theorem find?_of_find?_erase {slots : Slots} {ticket other : Nat} {slot : Slot}
    (hf : (slots.erase other).find? ticket = some slot) : slots.find? ticket = some slot := by
  by_cases ht : ticket = other
  · rw [ht, Slots.find?_erase_self] at hf
    cases hf
  · rwa [Slots.find?_erase_of_ne ht] at hf

/-- A slot is filled by an operation that brings the outcome along, or by the timer of its own
ticket. -/
theorem Holds.filled (h : s.Holds) {ev : PoolEvent} {ticket : Nat} {outcome : Outcome}
    (hv : s.pool.slots.find? ticket = some .vacant)
    (hf : (s.step ev).pool.slots.find? ticket = some (.filled outcome)) :
    ev.brings? = some outcome ∨ ev = .expire ticket ∧ outcome = .error .timeout ∧
      ∃ p ∈ s.pool.entries, ∃ n, p.ticket = ticket ∧ p.deadline = some n ∧ n ≤ s.clock := by
  have old : s.pool.slots.find? ticket ≠ some (.filled outcome) := by
    rw [hv]
    exact nofun
  cases ev with
  | add r resultType timeout =>
    change (s.add r resultType timeout).pool.slots.find? ticket = _ at hf
    cases hr : s.pool.find? r.id with
    | some p =>
      rw [add_of_find? _ _ hr] at hf
      exact absurd hf old
    | none =>
      rw [add_of_find?_none _ _ hr] at hf
      simp [PendingPool.enter, Slots.find?_append_single, hv] at hf
  | resolve r => exact .inl (congrArg some ((filled_finish hf).resolve_left old))
  | pop id o =>
    cases o with
    | some o => exact .inl (congrArg some ((filled_finish hf).resolve_left old))
    | none => exact absurd (filled_cancel hf) old
  | failAll e =>
    simp only [TimedPool.step, h.sound.slot_failAll, hv] at hf
    cases hf
    exact .inl rfl
  | poll other =>
    simp only [TimedPool.step, PendingPool.poll] at hf
    split at hf
    · exact absurd (find?_of_find?_erase hf) old
    · exact absurd hf old
  | leave other id => exact absurd (find?_of_find?_erase (filled_cancel hf)) old
  | expire other =>
    rcases h.expire_cases other with same | ⟨p, hp, n, hticket, hd, le, he⟩
    · rw [same] at hf
      exact absurd hf old
    · rw [he] at hf
      obtain ⟨rfl, slot⟩ := (filled_close hf).resolve_left old
      cases slot
      exact .inr ⟨by rw [hticket], rfl, p, hp, n, rfl, hd, le⟩
  | pass span => exact absurd hf old

theorem Holds.spares (h : s.Holds) {ticket other : Nat} (hne : other ≠ ticket) :
    (∀ p ∈ s.pool.entries, p.ticket = other → p ∈ (s.step (.expire ticket)).pool.entries) ∧
      (∀ t ∈ s.pool.timers, t.ticket = other → t ∈ (s.step (.expire ticket)).pool.timers) ∧
      (s.step (.expire ticket)).pool.slots.find? other = s.pool.slots.find? other := by
  rcases h.expire_cases ticket with same | ⟨p, hp, n, rfl, -, -, he⟩
  · rw [same]
    exact ⟨fun _ hp _ => hp, fun _ ht _ => ht, rfl⟩
  · rw [he]
    refine ⟨fun q hq ho => ?_, fun t ht ho => ?_, PendingPool.slot_close_of_ne hne⟩
    · exact PendingPool.mem_entries_close.mpr ⟨hq, ho ▸ hne⟩
    · exact List.mem_filter.mpr ⟨ht, by simpa [ho] using hne⟩

/-- A request that takes the id of one that is over has its own timer only. -/
example :
    let r : Request := ⟨.str "a", "m", none⟩
    let s := run {} [.add r "" (some ⟨5⟩), .resolve ⟨r.id, .ok .null⟩, .add r "" (some ⟨10⟩),
      .pass 7, .expire 0, .expire 1]
    s.pool.timers.map (fun t => (t.ticket, t.deadline)) = [(1, 10)] := by
  decide

end TimedPool

end DuplexRpc

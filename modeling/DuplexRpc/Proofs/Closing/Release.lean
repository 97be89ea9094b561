import DuplexRpc.Proofs.Closing.Bystanders
import DuplexRpc.Proofs.Closing.Parting

/-! What becomes of the requests that wait at an endpoint that nobody holds any more. Where a loop
handles its frames the end of that loop interrupts them. Where none does, as at an endpoint that was
built without one, nothing ends them. -/

namespace DuplexRpc

open ByteStream

/-- What can still happen to the calls at an endpoint that nobody holds, and to its pool. -/
inductive Wanes (calls : List (Nat × Id)) (pool : PendingPool) (ended : Prop) :
    List (Nat × Id) → PendingPool → Prop
  | stays : Wanes calls pool ended calls pool
  | takes (ticket : Nat) : Wanes calls pool ended (calls.filter (·.1 != ticket))
      { pool with slots := pool.slots.erase ticket }
  | leaves {ticket : Nat} {id : Id} (there : (ticket, id) ∈ calls) :
      Wanes calls pool ended (calls.filter (·.1 != ticket)) (pool.leave ticket id).2
  | expires {t : Timer} (armed : t ∈ pool.timers) : Wanes calls pool ended calls (pool.expire t).2
  | interrupts (done : ended) : Wanes calls pool ended calls (pool.failAll .interrupted)

/-- The request of a ticket has no timer that could run out. -/
def PendingPool.Untimed (pool : PendingPool) (ticket : Nat) : Prop :=
  ∀ t ∈ pool.timers, t.ticket ≠ ticket

/-- The request of a ticket was interrupted, or nothing came of it. -/
def PendingPool.Waned (pool pool' : PendingPool) (ticket : Nat) : Prop :=
  pool'.outcome? ticket = pool.outcome? ticket ∨
    pool.outcome? ticket = none ∧ pool'.outcome? ticket = some (.error .interrupted)

/-- The calls hold the ids of the requests that wait for them. -/
def PendingPool.Named (pool : PendingPool) (calls : List (Nat × Id)) : Prop :=
  ∀ p ∈ pool.entries, ∀ c ∈ calls, c.1 = p.ticket → c.2 = p.id

section

variable {calls calls' : List (Nat × Id)} {pool pool' pool'' : PendingPool} {ended : Prop}
  {c : Nat × Id} {ticket : Nat}

theorem PendingPool.Waned.trans (h : pool.Waned pool' ticket) (h' : pool'.Waned pool'' ticket) :
    pool.Waned pool'' ticket := by
  rcases h with same | ⟨none, interrupted⟩
  · rw [PendingPool.Waned, ← same]
    exact h'
  · rcases h' with same | ⟨none', -⟩
    · exact .inr ⟨none, same.trans interrupted⟩
    · rw [none'] at interrupted
      cases interrupted

theorem PendingPool.outcome?_close_of_ne {p : PendingRequest} {slot : Slot}
    (other : ticket ≠ p.ticket) : (pool.close p slot).outcome? ticket = pool.outcome? ticket := by
  rw [outcome?, outcome?, slot_close_of_ne other]

theorem PendingPool.outcome?_eraseSlot {t : Nat} (other : ticket ≠ t) :
    outcome? { pool with slots := pool.slots.erase t } ticket = pool.outcome? ticket := by
  rw [outcome?, outcome?, Slots.find?_erase_of_ne other]

namespace Wanes

theorem mem (wanes : Wanes calls pool ended calls' pool') (hc : c ∈ calls') : c ∈ calls := by
  cases wanes with
  | stays | expires | interrupts => exact hc
  | takes | leaves => exact (List.mem_filter.mp hc).1

/-- Requests leave the pool, and their timers with them. -/
theorem sub (wanes : Wanes calls pool ended calls' pool') (sound : pool.Sound) :
    (∀ p ∈ pool'.entries, p ∈ pool.entries) ∧ ∀ t ∈ pool'.timers, t ∈ pool.timers := by
  have closed (p : PendingRequest) (slots : Slots) (slot : Slot) :
      (∀ q ∈ (PendingPool.close { pool with slots } p slot).entries, q ∈ pool.entries) ∧
        ∀ t ∈ (PendingPool.close { pool with slots } p slot).timers, t ∈ pool.timers :=
    ⟨fun _ hq => (List.mem_filter.mp hq).1, fun _ ht => (List.mem_filter.mp ht).1⟩
  cases wanes with
  | stays | takes => exact ⟨fun _ h => h, fun _ h => h⟩
  | @leaves ticket id there =>
    cases found : pool.find? id with
    | none =>
      rw [PendingPool.leave_of_find?_none found]
      exact ⟨fun _ h => h, fun _ h => h⟩
    | some p =>
      rw [PendingPool.leave_of_find? found]
      exact closed p _ _
  | expires armed =>
    obtain ⟨p, -, -, same⟩ := sound.expire_eq armed
    rw [same]
    exact closed p pool.slots _
  | interrupts =>
    have empty := sound.entries_failAll .interrupted
    have timers := (sound.failAll .interrupted).timers
    rw [empty, List.filterMap_nil] at timers
    rw [empty, timers]
    exact ⟨fun _ h => absurd h List.not_mem_nil, fun _ h => absurd h List.not_mem_nil⟩

/-- A call that has no timer is interrupted, or stays as it is. -/
theorem waned (wanes : Wanes calls pool ended calls' pool') (sound : pool.Sound)
    (slot : pool.HasSlot c.1) (hc : c ∈ calls') (untimed : pool.Untimed c.1) :
    pool.Waned pool' c.1 := by
  cases wanes with
  | stays => exact .inl rfl
  | takes ticket =>
    exact .inl (PendingPool.outcome?_eraseSlot (bne_iff_ne.mp (List.mem_filter.mp hc).2))
  | @leaves ticket id there =>
    have other : c.1 ≠ ticket := bne_iff_ne.mp (List.mem_filter.mp hc).2
    cases found : pool.find? id with
    | none =>
      rw [PendingPool.leave_of_find?_none found]
      exact .inl (PendingPool.outcome?_eraseSlot other)
    | some p =>
      rw [PendingPool.leave_of_find? found]
      by_cases same : c.1 = p.ticket
      · -- the request of an equal id was given up
        obtain ⟨o, here⟩ := Option.isSome_iff_exists.mp slot
        have vacant := sound.waits p (PendingPool.find?_eq_some found).1 o (same ▸ here)
        subst vacant
        refine .inr ⟨by rw [PendingPool.outcome?, here]; rfl, ?_⟩
        rw [PendingPool.outcome?, same, PendingPool.slot_close_self,
          Slots.find?_erase_of_ne (same ▸ other), ← same, here]
        rfl
      · exact .inl ((PendingPool.outcome?_close_of_ne same).trans
          (PendingPool.outcome?_eraseSlot other))
  | expires armed =>
    obtain ⟨p, -, timer, same⟩ := sound.expire_eq armed
    rw [same]
    refine .inl (PendingPool.outcome?_close_of_ne fun here => untimed _ armed ?_)
    rw [here, (PendingPool.timer?_eq_some.mp timer).2.1]
  | interrupts =>
    have all := sound.outcome?_failAll slot
    cases here : pool.outcome? c.1 with
    | none =>
      rw [here] at all
      exact .inr ⟨here, all⟩
    | some o =>
      rw [here] at all
      exact .inl (all.trans here.symm)

/-- A call that waits, and has neither a timer nor a namesake, waits on until the loop ends. -/
theorem waits (wanes : Wanes calls pool ended calls' pool') (sound : pool.Sound) (goesOn : ¬ ended)
    (named : pool.Named calls) (hc : c ∈ calls') (untimed : pool.Untimed c.1)
    (sole : ∀ c' ∈ calls, c'.2.same c.2 = true → c' = c) (waiting : pool.outcome? c.1 = none) :
    pool'.outcome? c.1 = none := by
  have there := wanes.mem hc
  cases wanes with
  | stays => exact waiting
  | takes ticket =>
    rwa [PendingPool.outcome?_eraseSlot (bne_iff_ne.mp (List.mem_filter.mp hc).2)]
  | @leaves ticket id left =>
    have other : c.1 ≠ ticket := bne_iff_ne.mp (List.mem_filter.mp hc).2
    cases found : pool.find? id with
    | none => rwa [PendingPool.leave_of_find?_none found, PendingPool.outcome?_eraseSlot other]
    | some p =>
      obtain ⟨mem, same⟩ := PendingPool.find?_eq_some found
      have apart : c.1 ≠ p.ticket := by
        intro here
        rw [← named p mem c there here] at same
        have twin := sole (ticket, id) left (Id.same_symm same)
        exact other (congrArg Prod.fst twin).symm
      rwa [PendingPool.leave_of_find? found, PendingPool.outcome?_close_of_ne apart,
        PendingPool.outcome?_eraseSlot other]
  | expires armed =>
    obtain ⟨p, -, timer, same⟩ := sound.expire_eq armed
    have apart : c.1 ≠ p.ticket := by
      intro here
      refine untimed _ armed ?_
      rw [here, (PendingPool.timer?_eq_some.mp timer).2.1]
    rwa [same, PendingPool.outcome?_close_of_ne apart]
  | interrupts done => exact absurd done goesOn

end Wanes

end

namespace Stance

variable {v v' : Stance}

/-! ### Ids of calls -/

theorem Regular.named_move (h : v.Regular) (named : v.pool.Named v.calls) (move : v.Move v') :
    v'.pool.Named v'.calls := by
  cases move with
  | enter r resultType deadline live free perm =>
    intro p hp c hc same
    rcases List.mem_append.mp hp with old | new
    · rcases List.mem_cons.mp (perm.mem_iff.mp hc) with rfl | there
      · have below := h.pool.below p old
        have same : v.pool.nextTicket = p.ticket := same
        omega
      · exact named p old c there same
    · rw [List.mem_singleton] at new
      subst new
      rcases List.mem_cons.mp (perm.mem_iff.mp hc) with rfl | there
      · rfl
      · have old := h.pool.lt_of_hasSlot (h.slot c there)
        have same : c.1 = v.pool.nextTicket := same
        omega
  | close mem settled =>
    intro p hp
    exact named p (PendingPool.mem_entries_close.mp hp).1
  | take perm => exact fun p hp c hc => named p hp c (perm.mem_iff.mpr (List.mem_cons_of_mem _ hc))
  | @leave ticket id calls perm =>
    intro p hp c hc
    exact named p (v.pool.entries_leave ticket id hp) c
      (perm.mem_iff.mpr (List.mem_cons_of_mem _ hc))
  | shuffle perm => exact fun p hp c hc => named p hp c (perm.mem_iff.mpr hc)
  | failAll e =>
    intro p hp
    rw [h.pool.entries_failAll e] at hp
    cases hp
  | _ => exact named

theorem Regular.named_turn {other own : Prop} (h : v.Regular) (named : v.pool.Named v.calls)
    (turn : v.Turn other own v') : v'.pool.Named v'.calls := by
  cases turn with
  | moves keeps taken moves =>
    have start := h.drain keeps
    induction moves with
    | refl => exact named
    | tail before move ih => exact (start.moves before).1.named_move ih move
  | @shut f keeps taken ended =>
    intro p hp
    have empty : (v.drain f).shut.pool.entries = [] := h.pool.entries_failAll _
    rw [empty] at hp
    cases hp

end Stance

namespace Scene

variable {s : Scene} {side : Side} {n : Node}

theorem unheld (gone : n.isHeld = false) : n.held = false ∧ n.tasks = [] := by
  simpa [Node.isHeld, List.isEmpty_iff] using gone

theorem isHeld_of_rests {n' : Node} (rests : n.Rests n') : n'.isHeld = n.isHeld := by
  rw [Node.isHeld, Node.isHeld, rests.held, rests.tasks]

theorem calls_of_unheld (here : s.net.node? side = some n) (gone : n.isHeld = false) :
    s.calls side = s.held side := by
  rw [calls, here, Option.map_some, Option.getD_some, (unheld gone).2]
  exact List.append_nil _

/-- A step of a node that nobody holds. -/
def WanesAt (s : Scene) (side : Side) (n : Node) (s' : Scene) : Prop :=
  ∃ n', s'.net.node? side = some n' ∧ n'.isHeld = false ∧
    Wanes (s.calls side) n.endpoint.pool (n.receiving = true ∧ n'.receiving = false)
      (s'.calls side) n'.endpoint.pool

theorem wanes_of_held {s' : Scene} {n' : Node} (here : s.net.node? side = some n)
    (gone : n.isHeld = false) (there : s'.net.node? side = some n') (gone' : n'.isHeld = false)
    (wanes : Wanes (s.held side) n.endpoint.pool
      (n.receiving = true ∧ n'.receiving = false) (s'.held side) n'.endpoint.pool) :
    s.WanesAt side n s' := by
  refine ⟨n', there, gone', ?_⟩
  rw [calls_of_unheld here gone, calls_of_unheld there gone']
  exact wanes

theorem wanes_of_carries {s' : Scene} (here : s.net.node? side = some n) (gone : n.isHeld = false)
    (carries : s.net.Carries side s'.net) (held : s'.held = s.held) : s.WanesAt side n s' := by
  obtain ⟨n', there, rests, -⟩ := Network.Nodewise.node carries here
  have rests := rests rfl
  refine wanes_of_held here gone there ((isHeld_of_rests rests).trans gone) ?_
  rw [rests.pool, held]
  exact .stays

theorem node?_endReceiving {net : Network} (here : net.node? side = some n) :
    ∃ n', (net.endReceiving side).node? side = some n' ∧ n'.held = n.held ∧ n'.tasks = n.tasks ∧
      n'.receiving = false ∧ n'.endpoint.pool = n.endpoint.pool.failAll .interrupted := by
  have ended : (net.mapNode side Node.endReceiving).node? side = some n.endReceiving := by
    rw [Network.node?_mapNode_self, here]
    rfl
  unfold Network.endReceiving Network.mapInbox
  split
  · -- the queue belongs to the other node
    have spared (f : Node → Node) : ((net.mapNode side Node.endReceiving).mapNode side.other f).node?
        side = (net.mapNode side Node.endReceiving).node? side := by
      cases side <;> rfl
    exact ⟨n.endReceiving, (spared _).trans ended, rfl, rfl, rfl, rfl⟩
  · refine ⟨{ n.endReceiving with inbox := n.endReceiving.inbox.close }, ?_, rfl, rfl, rfl, rfl⟩
    rw [Network.node?_mapNode_self, ended]
    rfl

theorem wanes_endReceiving {net : Network} (here : s.net.node? side = some n)
    (gone : n.isHeld = false) (running : n.receiving = true) (carries : s.net.Carries side net) :
    s.WanesAt side n { s with net := net.endReceiving side } := by
  obtain ⟨n', there, rests, -⟩ := Network.Nodewise.node carries here
  have rests := rests rfl
  obtain ⟨n'', after, held, tasks, ended, pool⟩ := node?_endReceiving there
  have gone' : n''.isHeld = false := by
    rw [← gone, ← isHeld_of_rests rests, Node.isHeld, Node.isHeld, held, tasks]
  refine wanes_of_held here gone after gone' ?_
  rw [pool, rests.pool]
  exact .interrupts ⟨running, ended⟩

theorem wanes_stepReceiving (here : s.net.node? side = some n) (gone : n.isHeld = false)
    (running : n.receiving = true) (heeds : Bool) :
    s.WanesAt side n { s with net := s.net.stepReceiving side n heeds } := by
  have noted {net : Network} (carries : s.net.Carries side net) : s.WanesAt side n
      { s with net := (net.mapNode side (·.note .receivingEnded)).endReceiving side } :=
    wanes_endReceiving here gone running (carries.trans (Network.carries_note side _))
  unfold Network.stepReceiving
  split
  · exact wanes_endReceiving here gone running (.refl _ _)
  · simp only [gone, Bool.false_eq_true, if_false]
    split
    · exact noted (Network.carries_mapInbox side _)
    · split
      · exact noted (.refl _ _)
      · exact wanes_of_carries here gone (.refl _ _) rfl

theorem wanes_go (agent : Agent) (here : s.net.node? agent.side = some n)
    (gone : n.isHeld = false) : s.WanesAt agent.side n { s with net := s.net.step agent } := by
  have stays : s.WanesAt agent.side n s := wanes_of_carries here gone (.refl _ _) rfl
  cases agent with
  | sentinel side =>
    have here : s.net.node? side = some n := here
    simp only [Network.step, here]
    split
    · exact wanes_of_carries here gone (Network.carries_endSentinel side) rfl
    · exact stays
  | receiving side heeds =>
    have here : s.net.node? side = some n := here
    simp only [Network.step, here]
    split
    · rename_i running
      exact wanes_stepReceiving here gone running heeds
    · exact stays
  | writing side heeds =>
    have here : s.net.node? side = some n := here
    simp only [Network.step, here]
    split
    · exact wanes_of_carries here gone (Network.carries_stepWriting _ heeds) rfl
    · exact stays
  | reading side heeds =>
    have here : s.net.node? side = some n := here
    simp only [Network.step, here]
    split
    · exact wanes_of_carries here gone (Network.carries_stepReading _ _ heeds) rfl
    · exact stays
  | task side serial =>
    have here : s.net.node? side = some n := here
    simp only [Network.step, here, (unheld gone).2, List.find?_nil]
    exact stays
  | timer side ticket =>
    have here : s.net.node? side = some n := here
    simp only [Network.step, here]
    split
    · rename_i t found
      have after : (s.net.mapNode side (·.mapEndpoint (·.expire t))).node? side =
          some (n.mapEndpoint (·.expire t)) := by
        rw [Network.node?_mapNode_self, here]
        rfl
      refine wanes_of_held here gone after gone ?_
      rw [show (n.mapEndpoint (·.expire t)).endpoint.pool = (n.endpoint.pool.expire t).2 from
        Endpoint.pool_expire t]
      exact .expires (List.mem_of_find?_eq_some found)
    · exact stays

theorem mem_of_lookup {calls : List (Nat × Id)} {ticket : Nat} {id : Id}
    (found : calls.lookup ticket = some id) : (ticket, id) ∈ calls := by
  obtain ⟨before, after, rfl, -⟩ := List.lookup_eq_some_iff.mp found
  exact List.mem_append_right _ List.mem_cons_self

/-- Where nobody holds an endpoint its calls are taken or dropped, timers run out, and the loop that
handles its frames may end. That is all. -/
theorem wanes_step (here : s.net.node? side = some n) (gone : n.isHeld = false) (ev : Incident) :
    s.WanesAt side n (s.step ev) := by
  have stays : s.WanesAt side n s := wanes_of_carries here gone (.refl _ _) rfl
  have nobody : s.holder? side = none := by
    rw [holder?, here, Option.filter_some, gone]
    rfl
  have changed (f : Node → Node) : (s.net.mapNode side f).node? side = some (f n) := by
    rw [Network.node?_mapNode_self, here]
    rfl
  have forgot (ticket : Nat) :
      (s.forget side ticket).held side = (s.held side).filter (·.1 != ticket) := if_pos rfl
  by_cases elsewhere : ev.side? = some side
  · cases ev with
    | go agent =>
      obtain rfl : agent.side = side := Option.some.inj elsewhere
      exact wanes_go agent here gone
    | launch other what | run other script | ask other what =>
      obtain rfl : other = side := Option.some.inj elsewhere
      simp only [step, nobody]
      exact stays
    | poll other ticket =>
      obtain rfl : other = side := Option.some.inj elsewhere
      cases found : (s.held other).lookup ticket with
      | none =>
        simp only [step, here, found]
        exact stays
      | some id =>
        simp only [step, here, found, Endpoint.poll_waiting]
        cases (n.endpoint.pool.slots.find? ticket).bind Slot.outcome? with
        | none => exact stays
        | some outcome =>
          refine wanes_of_held here gone (changed _) gone ?_
          rw [forgot]
          exact .takes ticket
    | drop other ticket =>
      obtain rfl : other = side := Option.some.inj elsewhere
      cases found : (s.held other).lookup ticket with
      | none =>
        simp only [step, found]
        exact stays
      | some id =>
        simp only [step, found]
        refine wanes_of_held here gone (changed _) gone ?_
        rw [forgot, show (n.mapEndpoint (·.drop (.waiting id ticket))).endpoint.pool =
          (n.endpoint.pool.leave ticket id).2 from Endpoint.pool_drop id ticket]
        exact .leaves (mem_of_lookup found)
    | abort other serial =>
      obtain rfl : other = side := Option.some.inj elsewhere
      -- there is no task that could be given up
      have idle := (unheld gone).2
      have same : (s.net.abort other serial).node? other = some { n with tasks := [] } := by
        rw [Network.abort, changed]
        simp only [idle, List.find?_nil, Node.removeTask, List.filter_nil, Node.releaseFrom, gone,
          Bool.false_and, Bool.false_eq_true, if_false]
      exact wanes_of_held here gone same (idle ▸ gone) .stays
    | cancel other loop =>
      obtain rfl : other = side := Option.some.inj elsewhere
      simp only [step, Network.cancel, here]
      cases loop with
      | receiving =>
        simp only
        split
        · rename_i running
          exact wanes_endReceiving here gone running (.refl _ _)
        · exact stays
      | writing =>
        simp only
        split
        · exact wanes_of_carries here gone (Network.carries_endWriting _) rfl
        · exact stays
      | reading =>
        simp only
        split
        · exact wanes_of_carries here gone (Network.carries_endReading _) rfl
        · exact stays
    | openGate _ _ | pass _ | far _ => cases elsewhere
  · obtain ⟨n', there, bystands⟩ := bystands_step elsewhere here
    refine wanes_of_held here gone there (bystands.isHeld.trans gone) ?_
    rw [bystands.pool, held_step_other elsewhere]
    exact .stays

/-! ### Runs -/

/-- The calls of a side hold the ids of the requests that wait there. -/
theorem Holds.named_run (h : s.Holds) (side : Side)
    (named : ∀ n, s.net.node? side = some n → n.endpoint.pool.Named (s.calls side))
    (events : List Incident) :
    ∀ n, (s.run events).net.node? side = some n →
      n.endpoint.pool.Named ((s.run events).calls side) := by
  induction events generalizing s with
  | nil => exact named
  | cons ev events ih =>
    refine ih (h.step ev).1 fun n' there => ?_
    obtain ⟨n, here, turn⟩ := Network.Nodewise.origin (turns_step h ev) there
    have before := named n here
    rw [calls_eq here] at before
    rw [calls_eq there]
    exact (h side n here).named_turn before turn

/-- What is left of the calls at an endpoint that nobody holds. -/
structure Left (s : Scene) (side : Side) (n : Node) (u : Scene) (n' : Node) : Prop where
  gone : n'.isHeld = false
  mem : ∀ c ∈ u.calls side, c ∈ s.calls side
  timers : ∀ t ∈ n'.endpoint.pool.timers, t ∈ n.endpoint.pool.timers
  entries : ∀ p ∈ n'.endpoint.pool.entries, p ∈ n.endpoint.pool.entries
  waned : ∀ c ∈ u.calls side, n.endpoint.pool.Untimed c.1 →
    n.endpoint.pool.Waned n'.endpoint.pool c.1

theorem Holds.left_run (h : s.Holds) (here : s.net.node? side = some n) (gone : n.isHeld = false)
    (events : List Incident) :
    ∃ n', (s.run events).net.node? side = some n' ∧ s.Left side n (s.run events) n' := by
  induction events generalizing s n with
  | nil => exact ⟨n, here, gone, fun _ hc => hc, fun _ ht => ht, fun _ hp => hp, fun _ _ _ => .inl rfl⟩
  | cons ev events ih =>
    obtain ⟨n', there, gone', wanes⟩ := wanes_step here gone ev
    have sound : n.endpoint.pool.Sound := (h side n here).pool
    obtain ⟨entries, timers⟩ := wanes.sub sound
    obtain ⟨n'', after, left⟩ := ih (h.step ev).1 there gone'
    refine ⟨n'', after, left.gone, fun c hc => wanes.mem (left.mem c hc),
      fun t ht => timers t (left.timers t ht), fun p hp => entries p (left.entries p hp),
      fun c hc untimed => ?_⟩
    have old := wanes.mem (left.mem c hc)
    have slot : n.endpoint.pool.HasSlot c.1 := by
      rw [calls_eq here] at old
      exact (h side n here).slot c old
    exact (wanes.waned sound slot (left.mem c hc) untimed).trans
      (left.waned c hc fun t ht => untimed t (timers t ht))

/-- A call that nothing could end waits for good where no loop handles frames. -/
theorem Holds.waits_run (h : s.Holds) (here : s.net.node? side = some n) (gone : n.isHeld = false)
    (idle : n.receiving = false) (named : n.endpoint.pool.Named (s.calls side)) {c : Nat × Id}
    (untimed : n.endpoint.pool.Untimed c.1)
    (sole : ∀ c' ∈ s.calls side, c'.2.same c.2 = true → c' = c)
    (waiting : n.endpoint.pool.outcome? c.1 = none) (events : List Incident)
    (hc : c ∈ (s.run events).calls side) : (s.run events).outcome? side c = none := by
  -- calls, entries and timers only become fewer, so that nothing that is said of them is lost
  induction events generalizing s n with
  | nil => exact (outcome?_eq here c).trans waiting
  | cons ev events ih =>
    obtain ⟨n', there, gone', wanes⟩ := wanes_step here gone ev
    have sound : n.endpoint.pool.Sound := (h side n here).pool
    obtain ⟨entries, timers⟩ := wanes.sub sound
    obtain ⟨h', later⟩ := h.step ev
    obtain ⟨n₁, there₁, later⟩ := Network.Nodewise.node later here
    obtain rfl := Option.some.inj (there.symm.trans there₁)
    have idle' : n'.receiving = false := by
      cases running : n'.receiving with
      | false => rfl
      | true => exact absurd (later.receiving running) (Bool.eq_false_iff.mp idle)
    obtain ⟨n'', after, left⟩ := h'.left_run there gone' events
    have goesOn : ¬ (n.receiving = true ∧ n'.receiving = false) := by
      rw [idle]
      exact fun ends => Bool.false_ne_true ends.1
    refine ih h' there gone' idle' ?_ (fun t ht => untimed t (timers t ht))
      (fun c' hc' => sole c' (wanes.mem hc')) ?_ hc
    · exact fun p hp c hc => named p (entries p hp) c (wanes.mem hc)
    · exact wanes.waits sound goesOn named (left.mem c hc) untimed sole waiting

/-! ### The end of it -/

/-- How endpoints are built: over a transport of the builder's own, or joined to others. -/
inductive Builds : Network → Prop where
  | direct (a : Setup) (transport : Transport) : Builds { a := a.node transport }
  | joined {net : Network} (starts : Starts net) : Builds net

theorem Builds.holds {net : Network} (built : Builds net) : Holds { net } := by
  cases built with
  | direct a transport =>
    intro side n here
    cases side with
    | a =>
      obtain rfl := Option.some.inj here
      exact Stance.holds_of_fresh rfl rfl rfl rfl (.inr rfl) (.inr ⟨rfl, nofun, rfl, rfl⟩)
    | b => cases here
  | joined starts => exact holds_start starts

/-- Nothing waits at an endpoint that was just built, and it has no loop if it is joined to none. -/
theorem Builds.fresh {net : Network} (built : Builds net) (here : net.node? side = some n) :
    n.endpoint.pool = {} ∧ (net.link.medium = .none → n.receiving = false) := by
  cases built with
  | direct a transport =>
    cases side with
    | a =>
      obtain rfl := Option.some.inj here
      exact ⟨rfl, fun _ => rfl⟩
    | b => cases here
  | joined starts =>
    cases starts with
    | lone a =>
      cases side with
      | a =>
        obtain rfl := Option.some.inj here
        exact ⟨rfl, fun _ => rfl⟩
      | b => cases here
    | connect joined =>
      rw [Network.connect] at joined
      split at joined
      · obtain rfl := Except.ok.inj joined
        cases side <;> obtain rfl := Option.some.inj here <;> exact ⟨rfl, fun none => by cases none⟩
      · cases joined
    | connectStream a b capacity =>
      cases side <;> obtain rfl := Option.some.inj here <;> exact ⟨rfl, fun none => by cases none⟩
    | attach a capacity faults =>
      cases side with
      | a =>
        obtain rfl := Option.some.inj here
        exact ⟨rfl, fun none => by cases none⟩
      | b => cases here

/-- The request of a call has a timer. -/
def Timed (s : Scene) (side : Side) (c : Nat × Id) : Bool :=
  (s.net.node? side).any fun n => n.endpoint.pool.timers.any (·.ticket == c.1)

theorem untimed (here : s.net.node? side = some n) {c : Nat × Id} (h : s.Timed side c = false) :
    n.endpoint.pool.Untimed c.1 := by
  rw [Timed, here, Option.any_some, List.any_eq_false] at h
  exact fun t ht same => h t ht (beq_iff_eq.mpr same)

/-- Once nobody holds an endpoint no call is new there. If a loop handles its frames then nothing waits
there any more when nothing can go on: who waited without a timeout was interrupted. If none does then
who waits without a timeout waits for good. -/
theorem requests_of_unheld {net : Network} (built : Builds net) (events later : List Incident)
    (side : Side) :
    let t := run { net } events
    let u := t.run later
    (t.net.node? side).any (fun n => !n.isHeld) = true →
      (∀ c ∈ u.calls side, c ∈ t.calls side) ∧
      (net.link.medium ≠ .none → u.net.able = [] → u.IsOver side ∧
        ∀ c ∈ u.calls side, (u.outcome? side c).isSome = true ∧
          (t.Timed side c = false →
            u.outcome? side c = some ((t.outcome? side c).getD (.error .interrupted)))) ∧
      (net.link.medium = .none → ∀ c ∈ u.calls side, t.Timed side c = false →
        (∀ c' ∈ t.calls side, c'.2.same c.2 = true → c' = c) →
          t.outcome? side c = none → u.outcome? side c = none) := by
  intro t u left
  obtain ⟨h, before⟩ : t.Holds ∧ Later { net } t := built.holds.run events
  obtain ⟨h', after⟩ : u.Holds ∧ t.Later u := h.run later
  obtain ⟨n, here, gone⟩ := (Option.any_eq_true ..).mp left
  have gone : n.isHeld = false := by simpa using gone
  obtain ⟨n₀, here₀, laterN⟩ := Network.Nodewise.origin before here
  obtain ⟨n', there, left⟩ := h.left_run here gone later
  refine ⟨left.mem, fun joined idle => ?_, fun alone c hc untimed sole waiting => ?_⟩
  · have stopped : n'.isStopped = true := ((h' side n' there).released left.gone).1
    have medium : u.net.link.medium = net.link.medium := by
      obtain ⟨n₁, there₁, laterU⟩ := Network.Nodewise.node after here
      exact laterU.medium.trans laterN.medium
    have past : (u.stance side n').Over := (h' side n' there).ended
      (fun none => joined (medium.symm.trans none)) (Network.receiving_of_stopped idle there stopped)
    refine ⟨h'.isOver there past, fun c hc => ?_⟩
    have some_ : (u.outcome? side c).isSome = true := by
      rw [outcome?_eq there]
      rw [calls_eq there] at hc
      exact (h' side n' there).outcome?_isSome past hc
    refine ⟨some_, fun timeless => ?_⟩
    obtain ⟨o, outcome⟩ := Option.isSome_iff_exists.mp some_
    rw [outcome, outcome?_eq here]
    rw [outcome?_eq there] at outcome
    rcases left.waned c hc (untimed here timeless) with same | ⟨none, interrupted⟩
    · rw [show (t.stance side n).pool.outcome? c.1 = some o from same.symm.trans outcome]
      rfl
    · rw [show (t.stance side n).pool.outcome? c.1 = Option.none from none]
      exact outcome.symm.trans interrupted
  · have named : n.endpoint.pool.Named (t.calls side) := by
      refine built.holds.named_run side (fun m there p hp => ?_) events n here
      rw [(built.fresh there).1] at hp
      cases hp
    have idle : n.receiving = false := by
      cases running : n.receiving with
      | false => rfl
      | true =>
        have was := laterN.receiving running
        rw [show (Scene.stance { net } side n₀).receiving = n₀.receiving from rfl,
          (built.fresh here₀).2 alone] at was
        cases was
    rw [outcome?_eq here] at waiting
    exact h.waits_run here gone idle named (Scene.untimed here untimed) sole waiting later hc

/-- A holder makes two requests, the second one with a timeout, and lets go. -/
def leaving : List Incident :=
  [.launch .a (.plain "mirror" none none "Value"),
    .launch .a (.plain "mirror" none (some ⟨1⟩) "Value"), .ask .a .letGo]

/-- Over queues the loop for frames ends both requests, the second one unless its time came first.
Over a transport of its own the first one waits for good. -/
theorem requests_of_unheld_twice :
    let later : List Incident := [.go (.sentinel .a), .pass 1, .go (.timer .a 1),
      .go (.receiving .a true), .go (.receiving .b true), .go (.receiving .b true),
      .go (.task .b 0), .go (.task .b 1), .go (.receiving .b true), .go (.sentinel .b)]
    let t := (twins Course.mirror).run leaving
    let u := t.run later
    let t' := run { net := { a := Course.mirror.node (.recorder [] none) } } leaving
    let u' := t'.run later
    u.net.able = [] ∧ u.IsOver .a ∧ u.calls .a = [(1, .ofInt64 1), (0, .ofInt64 0)] ∧
      (u.outcome? .a (1, .ofInt64 1)).isSome = true ∧
      u.outcome? .a (0, .ofInt64 0) = some (.error .interrupted) ∧
      u'.net.able = [] ∧ u'.calls .a = [(1, .ofInt64 1), (0, .ofInt64 0)] ∧
      u'.outcome? .a (0, .ofInt64 0) = none := by
  intro later t u t' u'
  have joined : Builds (twins Course.mirror).net :=
    .joined (.connect (a := Course.mirror) (b := Course.mirror) rfl)
  have direct : Builds { a := Course.mirror.node (.recorder [] none) } := .direct Course.mirror _
  have calls : u.calls .a = [(1, .ofInt64 1), (0, .ofInt64 0)] := by decide +kernel
  have calls' : u'.calls .a = [(1, .ofInt64 1), (0, .ofInt64 0)] := by decide +kernel
  have idle : u.net.able = [] := by decide +kernel
  have waited : t.outcome? .a (0, .ofInt64 0) = none :=
    Option.isNone_iff_eq_none.mp (by decide +kernel)
  have waited' : t'.outcome? .a (0, .ofInt64 0) = none :=
    Option.isNone_iff_eq_none.mp (by decide +kernel)
  have second : (0, .ofInt64 0) ∈ u.calls .a := calls ▸ List.mem_cons_of_mem _ List.mem_cons_self
  obtain ⟨-, ended, -⟩ := requests_of_unheld joined leaving later .a (by decide +kernel)
  obtain ⟨-, -, waits⟩ := requests_of_unheld direct leaving later .a (by decide +kernel)
  obtain ⟨past, outcomes⟩ := ended nofun idle
  have interrupted : u.outcome? .a (0, .ofInt64 0) =
      some ((t.outcome? .a (0, .ofInt64 0)).getD (.error .interrupted)) :=
    (outcomes _ second).2 (by decide +kernel)
  rw [waited] at interrupted
  have sole : ∀ c ∈ t'.calls .a, c.2.same (.ofInt64 0) = true → c = (0, .ofInt64 0) := by
    decide +kernel
  exact ⟨idle, past, calls, (outcomes _ (calls ▸ List.mem_cons_self)).1, interrupted,
    by decide +kernel, calls', waits rfl (0, .ofInt64 0)
      (calls' ▸ List.mem_cons_of_mem _ List.mem_cons_self) (by decide +kernel) sole waited'⟩

/-- An endpoint that was built without a loop is let go and asked to stop by that, nothing can go on,
and its request waits. -/
theorem request_of_unheld_waits :
    let s : Scene := { net := { a := Course.mirror.node (.recorder [] none) } }
    let u := s.run [.launch .a (.plain "mirror" none none "Value"), .ask .a .letGo, .go (.sentinel .a)]
    Builds s.net ∧ (u.net.node? .a).any (fun n => !n.isHeld && n.isStopped) = true ∧
      u.net.able = [] ∧ u.calls .a = [(0, .ofInt64 0)] ∧ u.outcome? .a (0, .ofInt64 0) = none := by
  refine ⟨.direct Course.mirror _, by decide +kernel, by decide +kernel, by decide +kernel,
    Option.isNone_iff_eq_none.mp (by decide +kernel)⟩

end Scene

end DuplexRpc

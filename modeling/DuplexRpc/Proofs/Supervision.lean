import DuplexRpc.Supervisor.Bench
import Mathlib.Data.Set.Card

/-! The count of a supervisor over a run: it is the number of the members that were started and have
not ended, so no member ends where the count is zero, and the count does not get there before a stop
is requested, since the sentinel does not end before. -/

namespace DuplexRpc

namespace Supervisor

/-- Counts one less, where there is one. -/
def finish? (s : Supervisor) : Option Supervisor :=
  if s.running = 0 then none else some s.finish

end Supervisor

namespace SupervisedGroup

/-! ### Runs -/

/-- What an event starts, under a ticket of its own. -/
def Event.starts : Event → Option (Nat → Member)
  | .spawn => some .task
  | .hold => some .guard
  | _ => none

/-- An event is the end of a member. -/
def Event.Ends (stopped : Prop) : Event → Member → Prop
  | .finish ticket, m => m = .task ticket ∨ m = .guard ticket
  | .heed member, m => m = member ∧ member.heedsStop = true ∧ stopped
  | _, _ => False

/-- The number of tickets that events take. -/
def tickets (events : List Event) : Nat :=
  (events.filterMap Event.starts).length

/-- All members that were ever started, the sentinel as the first. -/
def started (events : List Event) : List Member :=
  .sentinel :: (events.filterMap Event.starts).mapIdx fun ticket member => member ticket

/-- A member was started and has not ended. -/
structure Live (events : List Event) (m : Member) : Prop where
  started : m ∈ started events
  goesOn : ∀ before ev after, events = before ++ ev :: after → m ∈ SupervisedGroup.started before →
    ¬ ev.Ends (.stop ∈ before) m

/-- A new group after events. -/
def run (events : List Event) : SupervisedGroup :=
  events.foldl after {}

/-- Removes a member, where the count allows it. -/
def remove? (g : SupervisedGroup) (member : Member) : Option SupervisedGroup :=
  if g.members.contains member then
    g.supervisor.finish?.map fun supervisor =>
      { g with supervisor, members := g.members.erase member }
  else some g

/-- What an event does, where the count allows it. -/
def after? (g : SupervisedGroup) : Event → Option SupervisedGroup
  | .finish ticket => (g.remove? (.task ticket)).bind (·.remove? (.guard ticket))
  | .heed member =>
    if g.supervisor.stopRequested && member.heedsStop then g.remove? member else some g
  | ev => some (g.after ev)

def run? (events : List Event) : Option SupervisedGroup :=
  events.foldlM after? {}

variable {g : SupervisedGroup} {m member : Member} {ev : Event} {events before : List Event}

/-! ### One event -/

/-- A group counts its members, and has seen it if there are none. -/
structure Tallies (g : SupervisedGroup) : Prop where
  distinct : g.members.Nodup
  running : g.supervisor.running = g.members.length
  empty : g.members = [] → g.supervisor.allStopped = true

theorem members_remove (g : SupervisedGroup) (member : Member) :
    (g.remove member).members = g.members.erase member := by
  unfold remove
  split
  · rfl
  · next absent =>
    rw [List.contains_iff_mem] at absent
    exact (List.erase_of_not_mem absent).symm

theorem stopRequested_remove (g : SupervisedGroup) (member : Member) :
    (g.remove member).supervisor.stopRequested = g.supervisor.stopRequested := by
  unfold remove
  split <;> rfl

theorem nextTicket_remove (g : SupervisedGroup) (member : Member) :
    (g.remove member).nextTicket = g.nextTicket := by
  unfold remove
  split <;> rfl

theorem Tallies.running_pos (h : g.Tallies) (mem : member ∈ g.members) :
    0 < g.supervisor.running := by
  rw [h.running]
  exact List.length_pos_of_mem mem

theorem Tallies.remove?_eq (h : g.Tallies) (member : Member) :
    g.remove? member = some (g.remove member) := by
  unfold remove? remove
  split
  · next present =>
    have counted := h.running_pos (List.contains_iff_mem.mp present)
    rw [Supervisor.finish?, if_neg counted.ne', Option.map_some]
  · rfl

theorem Tallies.allStopped_remove (h : g.Tallies) (member : Member) :
    (g.remove member).supervisor.allStopped = true ↔
      g.supervisor.allStopped = true ∨ (g.remove member).members = [] := by
  by_cases mem : member ∈ g.members
  · have size : g.supervisor.running - 1 = (g.members.erase member).length := by
      rw [h.running, List.length_erase_of_mem mem]
    rw [members_remove, remove, if_pos (List.contains_iff_mem.mpr mem)]
    simp only [Supervisor.finish, size, Bool.or_eq_true, beq_iff_eq, List.length_eq_zero_iff]
  · -- Nobody is removed, and a group without members has been seen before.
    rw [members_remove, List.erase_of_not_mem mem, remove,
      if_neg (mt List.contains_iff_mem.mp mem)]
    exact ⟨.inl, fun seen => seen.elim id h.empty⟩

theorem Tallies.remove (h : g.Tallies) (member : Member) : (g.remove member).Tallies where
  distinct := by
    rw [members_remove]
    exact h.distinct.erase member
  running := by
    rw [members_remove]
    unfold SupervisedGroup.remove
    split
    · next present =>
      rw [List.length_erase_of_mem (List.contains_iff_mem.mp present), ← h.running]
      rfl
    · next absent =>
      rw [List.contains_iff_mem] at absent
      rw [List.erase_of_not_mem absent, h.running]
  empty none := (h.allStopped_remove member).mpr (.inr none)

theorem Tallies.add {start : Nat → Member} (h : g.Tallies)
    (fresh : start g.nextTicket ∉ g.members) : (g.add start).Tallies where
  distinct := List.nodup_append.mpr
    ⟨h.distinct, List.nodup_singleton _, fun m mem m' mem' same => fresh (by
      rwa [← List.mem_singleton.mp mem', ← same])⟩
  running := by
    simp only [SupervisedGroup.add, Supervisor.start, h.running, List.length_append,
      List.length_singleton]
  empty none := by simp [SupervisedGroup.add] at none

/-- A member that is asked to stop ends, unless it does not heed that. -/
theorem after_heed_cases (g : SupervisedGroup) (member : Member) :
    (g.supervisor.stopRequested = true ∧ member.heedsStop = true) ∧
        g.after (.heed member) = g.remove member ∨
      ¬ (g.supervisor.stopRequested = true ∧ member.heedsStop = true) ∧
        g.after (.heed member) = g := by
  simp only [after, ← Bool.and_eq_true]
  split
  · next heeds => exact .inl ⟨heeds, rfl⟩
  · next ignores => exact .inr ⟨ignores, rfl⟩

theorem Tallies.after (h : g.Tallies)
    (fresh : ∀ start, ev.starts = some start → start g.nextTicket ∉ g.members) :
    (g.after ev).Tallies := by
  cases ev with
  | spawn => exact h.add (fresh _ rfl)
  | hold => exact h.add (fresh _ rfl)
  | finish ticket => exact (h.remove _).remove _
  | stop => exact ⟨h.distinct, h.running, h.empty⟩
  | heed member =>
    rcases after_heed_cases g member with ⟨-, now⟩ | ⟨-, now⟩
    · rw [now]
      exact h.remove member
    · rw [now]
      exact h

theorem Tallies.after?_eq (h : g.Tallies) (ev : Event) : g.after? ev = some (g.after ev) := by
  cases ev with
  | spawn | hold | stop => rfl
  | finish ticket =>
    rw [after?, h.remove?_eq, Option.bind_some, (h.remove _).remove?_eq]
    rfl
  | heed member =>
    simp only [after?, SupervisedGroup.after]
    split
    · exact h.remove?_eq member
    · rfl

theorem Tallies.mem_after_iff (h : g.Tallies) (ev : Event) :
    m ∈ (g.after ev).members ↔
      m ∈ g.members ∧ ¬ ev.Ends (g.supervisor.stopRequested = true) m ∨
        ev.starts.map (· g.nextTicket) = some m := by
  cases ev with
  | spawn => simp [SupervisedGroup.after, SupervisedGroup.add, Event.Ends, Event.starts, eq_comm]
  | hold => simp [SupervisedGroup.after, SupervisedGroup.add, Event.Ends, Event.starts, eq_comm]
  | stop => simp [SupervisedGroup.after, SupervisedGroup.stop, Event.Ends, Event.starts]
  | finish ticket =>
    rw [SupervisedGroup.after, members_remove, members_remove,
      (h.distinct.erase _).mem_erase_iff, h.distinct.mem_erase_iff]
    simp only [Event.Ends, Event.starts, Option.map_none, reduceCtorEq, or_false]
    tauto
  | heed member =>
    simp only [Event.Ends, Event.starts, Option.map_none, reduceCtorEq, or_false]
    rcases after_heed_cases g member with ⟨heeds, now⟩ | ⟨ignores, now⟩
    · rw [now, members_remove, h.distinct.mem_erase_iff]
      tauto
    · rw [now]
      tauto

theorem Tallies.allStopped_after (h : g.Tallies) (ev : Event) :
    (g.after ev).supervisor.allStopped = true ↔
      g.supervisor.allStopped = true ∨ (g.after ev).members = [] := by
  cases ev with
  | spawn | hold => simp [SupervisedGroup.after, SupervisedGroup.add, Supervisor.start]
  | stop => exact ⟨.inl, fun seen => seen.elim id h.empty⟩
  | finish ticket =>
    -- At most one of the two is a member; the second removal covers what the first one sees.
    have first := h.allStopped_remove (.task ticket)
    have second := (h.remove (.task ticket)).allStopped_remove (.guard ticket)
    have fewer : (g.remove (.task ticket)).members = [] →
        ((g.remove (.task ticket)).remove (.guard ticket)).members = [] := by
      intro none
      rw [members_remove, none, List.erase_nil]
    rw [SupervisedGroup.after, second, first]
    tauto
  | heed member =>
    rcases after_heed_cases g member with ⟨-, now⟩ | ⟨-, now⟩
    · rw [now]
      exact h.allStopped_remove member
    · rw [now]
      exact ⟨.inl, fun seen => seen.elim id h.empty⟩

theorem stopRequested_after (g : SupervisedGroup) (ev : Event) :
    (g.after ev).supervisor.stopRequested = true ↔
      g.supervisor.stopRequested = true ∨ ev = .stop := by
  cases ev with
  | spawn | hold => simp [after, add, Supervisor.start]
  | stop => simp [after, stop, Supervisor.stop]
  | finish ticket => simp [after, stopRequested_remove]
  | heed member =>
    rcases after_heed_cases g member with ⟨-, now⟩ | ⟨-, now⟩ <;>
      simp [now, stopRequested_remove]

theorem nextTicket_after (g : SupervisedGroup) (ev : Event) :
    (g.after ev).nextTicket = g.nextTicket + tickets [ev] := by
  cases ev with
  | spawn | hold | stop => rfl
  | finish ticket =>
    rw [after, nextTicket_remove, nextTicket_remove]
    rfl
  | heed member =>
    rcases after_heed_cases g member with ⟨-, now⟩ | ⟨-, now⟩
    · rw [now, nextTicket_remove]
      rfl
    · rw [now]
      rfl

/-! ### Histories -/

theorem started_append (events : List Event) (ev : Event) :
    started (events ++ [ev]) = started events ++ (ev.starts.map (· (tickets events))).toList := by
  rw [started, started, List.filterMap_append, List.mapIdx_append, List.cons_append]
  cases new : ev.starts <;> simp [new, tickets]

theorem started_subset (events more : List Event) : started events ⊆ started (events ++ more) := by
  rw [started, started, List.filterMap_append, List.mapIdx_append]
  exact List.subset_append_left _ _

theorem tickets_append (events : List Event) (ev : Event) :
    tickets (events ++ [ev]) = tickets events + tickets [ev] := by
  rw [tickets, List.filterMap_append, List.length_append, tickets, tickets]

theorem start_not_mem_started {start : Nat → Member} (starts : ev.starts = some start) {n : Nat}
    (later : tickets events ≤ n) : start n ∉ started events := by
  intro mem
  rcases List.mem_cons.mp mem with sentinel | mem
  · cases ev <;> cases starts <;> cases sentinel
  · -- A task or a guard has the ticket under which it is listed.
    obtain ⟨i, bound, same⟩ := List.mem_mapIdx.mp mem
    obtain ⟨ev', -, starts'⟩ := List.mem_filterMap.mp (List.getElem_mem bound)
    have ticket : i = n := by
      generalize (events.filterMap Event.starts)[i] = start' at same starts'
      cases ev <;> cases starts <;> cases ev' <;> cases starts' <;> cases same <;> rfl
    rw [ticket] at bound
    exact absurd bound (Nat.not_lt.mpr later)

theorem live_append_iff :
    Live (events ++ [ev]) m ↔
      Live events m ∧ ¬ ev.Ends (.stop ∈ events) m ∨
        ev.starts.map (· (tickets events)) = some m := by
  have mem_started : m ∈ started (events ++ [ev]) ↔
      m ∈ started events ∨ ev.starts.map (· (tickets events)) = some m := by
    rw [started_append, List.mem_append, Option.mem_toList]
  constructor
  · intro live
    refine (mem_started.mp live.started).imp_left fun before => ⟨⟨before, ?_⟩, ?_⟩
    · rintro first ev' rest rfl
      exact live.goesOn first ev' (rest ++ [ev]) (by simp)
    · exact live.goesOn events ev [] rfl before
  · rintro (⟨live, goesOn⟩ | new)
    · refine ⟨mem_started.mpr (.inl live.started), fun first ev' rest whole => ?_⟩
      -- The event in question is the new one, or one of those before it.
      rcases List.eq_nil_or_concat rest with rfl | ⟨rest, last, rfl⟩
      · obtain ⟨rfl, one⟩ := List.append_inj' whole rfl
        cases one
        exact fun _ => goesOn
      · have cut : events ++ [ev] = (first ++ ev' :: rest) ++ [last] := by simpa using whole
        exact live.goesOn first ev' rest (List.append_inj' cut rfl).1
    · -- What is new was not started before, so nothing can have ended it.
      refine ⟨mem_started.mpr (.inr new), fun first ev' rest whole mem => ?_⟩
      obtain ⟨start, starts, rfl⟩ := Option.map_eq_some_iff.mp new
      have inside : first <+: events := by
        rcases List.prefix_concat_iff.mp ⟨ev' :: rest, whole.symm⟩ with same | inside
        · simp [same] at whole
        · exact inside
      obtain ⟨more, rfl⟩ := inside
      exact absurd (started_subset first more mem) (start_not_mem_started starts le_rfl)

/-- Where nobody is live, the sentinel has ended, and it ends only after a request to stop. -/
theorem stop_mem_of_not_live (none : ∀ m, ¬ Live events m) : .stop ∈ events := by
  by_contra going
  refine none .sentinel ⟨List.mem_cons_self, fun first ev rest whole _ ends => ?_⟩
  cases ev with
  | spawn | hold | stop => exact ends
  | finish ticket => rcases ends with ends | ends <;> cases ends
  | heed member =>
    rw [whole] at going
    exact going (List.mem_append_left _ ends.2.2)

/-! ### All events -/

/-- A group is what its history made of it. -/
structure Holds (events : List Event) (g : SupervisedGroup) : Prop where
  tallies : g.Tallies
  tickets : g.nextTicket = SupervisedGroup.tickets events
  live : ∀ m, m ∈ g.members ↔ Live events m
  stop : g.supervisor.stopRequested = true ↔ .stop ∈ events
  zero : g.supervisor.allStopped = true ↔ ∃ before, before <+: events ∧ ∀ m, ¬ Live before m

theorem live_nil_iff : Live [] m ↔ m = .sentinel :=
  ⟨fun live => List.mem_singleton.mp live.started, fun same =>
    ⟨List.mem_singleton.mpr same, fun _ _ _ whole => absurd whole.symm (by simp)⟩⟩

theorem holds_nil : Holds [] {} where
  tallies := ⟨List.nodup_singleton _, rfl, nofun⟩
  tickets := rfl
  live m := by
    rw [live_nil_iff]
    exact List.mem_singleton
  stop := by simp [Supervisor.create]
  zero := by
    refine ⟨nofun, ?_⟩
    rintro ⟨before, inside, none⟩
    rw [List.prefix_nil.mp inside] at none
    exact absurd (live_nil_iff.mpr rfl) (none .sentinel)

theorem Holds.members_eq_nil_iff (h : Holds events g) :
    g.members = [] ↔ ∀ m, ¬ Live events m := by
  rw [List.eq_nil_iff_forall_not_mem]
  exact forall_congr' fun m => not_congr (h.live m)

theorem Holds.after (h : Holds events g) (ev : Event) : Holds (events ++ [ev]) (g.after ev) := by
  have live (m : Member) : m ∈ (g.after ev).members ↔ Live (events ++ [ev]) m := by
    have stopped : (g.supervisor.stopRequested = true) = (.stop ∈ events) := propext h.stop
    rw [h.tallies.mem_after_iff, live_append_iff, h.live, stopped, h.tickets]
  have fresh (start : Nat → Member) (starts : ev.starts = some start) :
      start g.nextTicket ∉ g.members := by
    intro mem
    exact start_not_mem_started starts h.tickets.ge ((h.live _).mp mem).started
  refine ⟨h.tallies.after fresh, ?tickets, live, ?stop, ?zero⟩
  case tickets => rw [nextTicket_after, h.tickets, tickets_append]
  case stop =>
    rw [stopRequested_after, h.stop, List.mem_append, List.mem_singleton]
    exact or_congr_right eq_comm
  case zero =>
    have now : (g.after ev).members = [] ↔ ∀ m, ¬ Live (events ++ [ev]) m := by
      rw [List.eq_nil_iff_forall_not_mem]
      exact forall_congr' fun m => not_congr (live m)
    rw [h.tallies.allStopped_after, h.zero, now]
    constructor
    · rintro (⟨before, inside, none⟩ | none)
      · exact ⟨before, inside.trans (List.prefix_append _ _), none⟩
      · exact ⟨_, List.prefix_rfl, none⟩
    · rintro ⟨before, inside, none⟩
      rcases List.prefix_concat_iff.mp inside with rfl | inside
      · exact .inr none
      · exact .inl ⟨before, inside, none⟩

theorem Holds.foldl (h : Holds before g) (events : List Event) :
    events.foldlM after? g = some (events.foldl SupervisedGroup.after g) ∧
      Holds (before ++ events) (events.foldl SupervisedGroup.after g) := by
  induction events generalizing before g with
  | nil =>
    rw [List.append_nil]
    exact ⟨rfl, h⟩
  | cons ev events ih =>
    have whole : before ++ ev :: events = before ++ [ev] ++ events := by
      rw [List.append_assoc, List.singleton_append]
    obtain ⟨counted, later⟩ := ih (h.after ev)
    rw [whole]
    refine ⟨?_, later⟩
    rw [List.foldlM_cons, h.tallies.after?_eq]
    exact counted

theorem holds_run (events : List Event) : Holds events (run events) :=
  (holds_nil.foldl events).2

/-- What a supervisor shows after events. -/
structure Counts (events : List Event) : Prop where
  /-- The count is never lowered at zero. -/
  checked : run? events = some (run events)
  running : {m | Live events m}.encard = (run events).supervisor.running
  allStopped_iff : (run events).supervisor.allStopped = true ↔
    ∃ before, before <+: events ∧ (run before).supervisor.running = 0
  stopRequested_iff : (run events).supervisor.stopRequested = true ↔ .stop ∈ events
  stopRequested : (run events).supervisor.allStopped = true →
    (run events).supervisor.stopRequested = true

theorem Holds.encard_live (h : Holds events g) :
    {m | Live events m}.encard = g.supervisor.running := by
  have members : {m | Live events m} = ↑g.members.toFinset := by
    ext m
    simp [h.live]
  rw [members, Set.encard_coe_eq_coe_finsetCard, List.toFinset_card_of_nodup h.tallies.distinct,
    h.tallies.running]

/-- Whatever happens in whatever order, a supervisor counts who is live, tells that all have stopped
from the moment on that nobody is, and that is not before a stop is requested. -/
theorem run_counts (events : List Event) : Counts events := by
  have zero (before : List Event) :
      (run before).supervisor.running = 0 ↔ ∀ m, ¬ Live before m := by
    have h := holds_run before
    rw [h.tallies.running, List.length_eq_zero_iff, h.members_eq_nil_iff]
  have h := holds_run events
  refine ⟨(holds_nil.foldl events).1, h.encard_live, ?_, h.stop, fun seen => ?_⟩
  · simp only [h.zero, zero]
  · obtain ⟨before, inside, none⟩ := h.zero.mp seen
    exact h.stop.mpr (inside.subset (stop_mem_of_not_live none))

end SupervisedGroup

namespace SupervisorBench

/-- Does one thing after the other. -/
def run (b : SupervisorBench) (actions : List Action) : SupervisorBench :=
  actions.foldl (fun b action => (b.step action).2.1) b

/-- A group has become another one by events. -/
def Becomes (g g' : SupervisedGroup) : Prop :=
  ∃ events : List SupervisedGroup.Event, g' = events.foldl SupervisedGroup.after g

variable {g g₁ g' : SupervisedGroup}

theorem Becomes.refl (g : SupervisedGroup) : Becomes g g :=
  ⟨[], rfl⟩

theorem becomes_after (g : SupervisedGroup) (ev : SupervisedGroup.Event) :
    Becomes g (g.after ev) :=
  ⟨[ev], rfl⟩

theorem Becomes.trans (h : Becomes g g₁) (h' : Becomes g₁ g') : Becomes g g' := by
  obtain ⟨events, rfl⟩ := h
  obtain ⟨more, rfl⟩ := h'
  exact ⟨events ++ more, List.foldl_append.symm⟩

theorem becomes_settle (g : SupervisedGroup) : Becomes g g.settle :=
  ⟨g.members.map .heed, List.foldl_map.symm⟩

theorem becomes_endTask (b : SupervisorBench) (key : String) (ok : Bool) :
    Becomes b.group (b.endTask key ok).2.1.group := by
  unfold endTask
  split
  · exact .refl _
  · next ticket _ => exact becomes_after b.group (.finish ticket)

theorem becomes_letGo (b : SupervisorBench) (key : String) :
    Becomes b.group (b.letGo key).2.group := by
  unfold letGo
  split
  · exact .refl _
  · next ticket _ => exact becomes_after b.group (.finish ticket)

theorem becomes_act (b : SupervisorBench) (action : Action) :
    Becomes b.group (b.act action).2.1.group := by
  cases action with
  | spawn key => exact (becomes_after b.group .spawn).trans (becomes_endTask _ key false)
  | spawnDone key =>
    exact (becomes_after b.group .spawn).trans
      (becomes_after (b.group.after .spawn) (.finish b.group.nextTicket))
  | release key => exact becomes_endTask b key true
  | hold key => exact (becomes_after b.group .hold).trans (becomes_letGo _ key)
  | letGo key => exact becomes_letGo b key
  | hasSeenStop key => exact .refl _
  | stop | stopByGuard | drop => exact becomes_after b.group .stop

/-- Whatever is done at a bench comes to events. -/
theorem becomes_step (b : SupervisorBench) (action : Action) :
    Becomes b.group (b.step action).2.1.group := by
  unfold step
  split
  · exact .refl _
  · exact (becomes_act b action).trans (becomes_settle _)

theorem becomes_run (b : SupervisorBench) (actions : List Action) :
    Becomes b.group (b.run actions).group := by
  induction actions generalizing b with
  | nil => exact .refl _
  | cons action actions ih => exact (becomes_step b action).trans (ih _)

/-- So all that is true of a group after events is true of the group of a bench. -/
theorem exists_run_eq_group (actions : List Action) :
    ∃ events, (run {} actions).group = SupervisedGroup.run events :=
  becomes_run {} actions

end SupervisorBench

end DuplexRpc

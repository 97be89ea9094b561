import DuplexRpc.Proofs.Network.Changes
import DuplexRpc.Proofs.Supervision

/-! What is known once all tasks have been seen to have stopped. This is seen once and for all, so it
speaks of the tasks that were started up to some moment after the request to stop; whoever starts one
later finds it running. Endpoints start all of their tasks when they come to be, and so nobody who waits
for the end of an endpoint is told too early. -/

namespace DuplexRpc

namespace SupervisedGroup

variable {events before rest : List Event} {m : Member}

theorem running_eq_zero_iff (events : List Event) :
    (run events).supervisor.running = 0 ↔ ∀ m, ¬ Live events m := by
  have h := holds_run events
  rw [h.tallies.running, List.length_eq_zero_iff, h.members_eq_nil_iff]

/-- Who is live was live ever since it was started. -/
theorem live_of_append (live : Live (before ++ rest) m) (mem : m ∈ started before) :
    Live before m := by
  refine ⟨mem, ?_⟩
  rintro first ev more rfl
  exact live.goesOn first ev (more ++ rest) (by simp)

theorem started_append_of_idle (idle : ∀ ev ∈ rest, ev.starts = none) :
    started (before ++ rest) = started before := by
  have none : rest.filterMap Event.starts = [] := List.filterMap_eq_nil_iff.mpr idle
  simp [started, none]

/-- All had stopped at a moment of a history. -/
structure Stilled (before rest : List Event) : Prop where
  stop : .stop ∈ before
  running : (run before).supervisor.running = 0
  /-- Of those who were started by then, none is live again. -/
  ended : ∀ m ∈ started before, ¬ Live (before ++ rest) m
  /-- The count is zero again exactly where whoever was started since has ended too. -/
  late : (run (before ++ rest)).supervisor.running = 0 ↔
    ∀ m ∈ started (before ++ rest), m ∉ started before → ¬ Live (before ++ rest) m
  /-- So it is where nobody was started since. -/
  still : (∀ ev ∈ rest, ev.starts = none) →
    (run (before ++ rest)).supervisor.running = 0 ∧ ∀ m, ¬ Live (before ++ rest) m

theorem stilled_of_not_live (none : ∀ m, ¬ Live before m) (rest : List Event) :
    Stilled before rest := by
  have ended : ∀ m ∈ started before, ¬ Live (before ++ rest) m :=
    fun m mem live => none m (live_of_append live mem)
  refine ⟨stop_mem_of_not_live none, (running_eq_zero_iff before).mpr none, ended, ?late, ?still⟩
  case late =>
    rw [running_eq_zero_iff]
    refine ⟨fun nobody m _ _ => nobody m, fun since m live => ?_⟩
    by_cases early : m ∈ started before
    · exact ended m early live
    · exact since m live.started early live
  case still =>
    intro idle
    rw [running_eq_zero_iff, and_self]
    intro m live
    have early := live.started
    rw [started_append_of_idle idle] at early
    exact ended m early live

theorem exists_stilled (seen : (run events).supervisor.allStopped = true) :
    ∃ before rest, events = before ++ rest ∧ Stilled before rest := by
  obtain ⟨before, ⟨rest, rfl⟩, none⟩ := (holds_run events).zero.mp seen
  exact ⟨before, rest, rfl, stilled_of_not_live none rest⟩

/-- Where nothing is started later than the first tasks, none is started after the moment at which all
had stopped. -/
theorem exists_stilled_idle {tasks : Nat} (idle : ∀ ev ∈ events, ev.starts = none)
    (seen : (run (List.replicate tasks .spawn ++ events)).supervisor.allStopped = true) :
    ∃ before rest, List.replicate tasks .spawn ++ events = before ++ rest ∧ Stilled before rest ∧
      ∀ ev ∈ rest, ev.starts = none := by
  obtain ⟨before, rest, whole, stilled⟩ := exists_stilled seen
  refine ⟨before, rest, whole, stilled, ?_⟩
  rcases List.append_eq_append_iff.mp whole with ⟨more, rfl, rfl⟩ | ⟨more, first, -⟩
  · exact fun ev mem => idle ev (List.mem_append_right more mem)
  · -- A stop was requested by then, so the first tasks had all been started.
    have asked : Event.stop ∈ List.replicate tasks .spawn := first ▸ List.mem_append_left _ stilled.stop
    cases List.eq_of_mem_replicate asked

/-- A guard that is taken late is counted and held, though all have been seen to have stopped. -/
theorem guard_runs_after_all_stopped :
    let events : List Event := [.stop, .heed .sentinel, .hold]
    (run events).supervisor.allStopped = true ∧ (run events).supervisor.running = 1 ∧
      Live events (.guard 0) := by
  intro events
  have member : Member.guard 0 ∈ (run events).members := by decide
  exact ⟨rfl, rfl, ((holds_run events).live _).mp member⟩

end SupervisedGroup

namespace Member

/-- The sentinel and the loops of a node that run, under the tickets at which they are started. -/
def loops (sentinel receiving writing reading : Bool) : List Member :=
  (if sentinel then [.sentinel] else []) ++ (if receiving then [.task 0] else []) ++
    (if writing then [.task 1] else []) ++ if reading then [.task 2] else []

variable {sentinel receiving writing reading : Bool}

theorem guard_notMem_loops (ticket : Nat) :
    guard ticket ∉ loops sentinel receiving writing reading := by
  simp [loops]

theorem erase_sentinel :
    (loops true receiving writing reading).erase .sentinel =
      loops false receiving writing reading := by
  revert receiving writing reading
  decide

theorem erase_receiving :
    (loops sentinel true writing reading).erase (.task 0) = loops sentinel false writing reading := by
  revert sentinel writing reading
  decide

theorem erase_writing :
    (loops sentinel receiving true reading).erase (.task 1) =
      loops sentinel receiving false reading := by
  revert sentinel receiving reading
  decide

theorem erase_reading :
    (loops sentinel receiving writing true).erase (.task 2) =
      loops sentinel receiving writing false := by
  revert sentinel receiving writing
  decide

theorem loops_eq_nil (none : loops sentinel receiving writing reading = []) :
    sentinel = false ∧ receiving = false ∧ writing = false ∧ reading = false := by
  simpa [loops, and_assoc] using none

end Member

namespace Node

/-- The tasks that the supervisor of a node counts. -/
def supervised (n : Node) : List Member :=
  Member.loops n.sentinel n.receiving n.writer.isSome n.reader.isSome

/-- The supervisor of a node is that of a group, and the members of the group are the tasks of the
node. -/
structure Follows (n : Node) (g : SupervisedGroup) : Prop where
  supervisor : n.endpoint.supervisor = g.supervisor
  members : n.supervised = g.members

variable {n n' : Node} {g : SupervisedGroup}

theorem Follows.of_same (h : n.Follows g) (members : n'.supervised = n.supervised)
    (supervisor : n'.endpoint.supervisor = n.endpoint.supervisor) : n'.Follows g :=
  ⟨supervisor.trans h.supervisor, members.trans h.members⟩

/-- A member of the group ends, which is a task of the node. -/
theorem Follows.remove (h : n.Follows g) {m : Member} (mem : m ∈ n.supervised)
    (members : n'.supervised = n.supervised.erase m)
    (supervisor : n'.endpoint.supervisor = n.endpoint.supervisor.finish) :
    n'.Follows (g.remove m) := by
  rw [h.members] at mem
  rw [SupervisedGroup.remove, if_pos (List.contains_iff_mem.mpr mem)]
  exact ⟨by rw [supervisor, h.supervisor], by rw [members, h.members]⟩

/-- A loop ends by itself. -/
theorem Follows.finish (h : n.Follows g) {ticket : Nat} (mem : .task ticket ∈ n.supervised)
    (members : n'.supervised = n.supervised.erase (.task ticket))
    (supervisor : n'.endpoint.supervisor = n.endpoint.supervisor.finish) :
    n'.Follows (g.after (.finish ticket)) := by
  have removed := h.remove mem members supervisor
  have absent : .guard ticket ∉ (g.remove (.task ticket)).members := by
    rw [← removed.members]
    exact Member.guard_notMem_loops ticket
  have same : g.after (.finish ticket) = g.remove (.task ticket) :=
    if_neg (mt List.contains_iff_mem.mp absent)
  rwa [same]

theorem Follows.stop (h : n.Follows g) (members : n'.supervised = n.supervised)
    (supervisor : n'.endpoint.supervisor = n.endpoint.supervisor.stop) :
    n'.Follows (g.after .stop) :=
  ⟨by rw [supervisor, h.supervisor]; rfl, members.trans h.members⟩

/-- All that becomes of a node is an event of the group, or two, or none. -/
theorem Follows.change (h : n.Follows g) (change : n.Change n') :
    ∃ events : List SupervisedGroup.Event, (∀ ev ∈ events, ev.starts = none) ∧
      n'.Follows (events.foldl SupervisedGroup.after g) := by
  cases change with
  | work works =>
    rcases works.supervisor with same | stopped
    · exact ⟨[], by simp, h.of_same rfl same⟩
    · exact ⟨[.stop], by simp [SupervisedGroup.Event.starts], h.stop rfl stopped⟩
  | tend held tasks inbox => exact ⟨[], by simp, h.of_same rfl rfl⟩
  | write w writing => exact ⟨[], by simp, h.of_same (by simp [supervised, writing]) rfl⟩
  | read r reading => exact ⟨[], by simp, h.of_same (by simp [supervised, reading]) rfl⟩
  | endSentinel running stopped =>
    refine ⟨[.heed .sentinel], by simp [SupervisedGroup.Event.starts], ?_⟩
    have heeds : g.after (.heed .sentinel) = g.remove .sentinel := by
      have asked : g.supervisor.stopRequested = true := h.supervisor ▸ stopped
      rw [SupervisedGroup.after, asked]
      rfl
    show n.endSentinel.Follows (g.after (.heed .sentinel))
    rw [heeds]
    refine h.remove (by simp [supervised, running, Member.loops]) ?_ rfl
    rw [supervised, supervised, running]
    exact Member.erase_sentinel.symm
  | endReceiving receiving =>
    refine ⟨[.stop, .finish 0], by simp [SupervisedGroup.Event.starts], ?_⟩
    have runs : Member.task 0 ∈ n.supervised := by simp [supervised, Member.loops, receiving]
    have asked : n.requestStop.Follows (g.after .stop) := h.stop rfl rfl
    refine asked.finish runs ?_ rfl
    rw [supervised, supervised, show n.requestStop.receiving = true from receiving]
    exact Member.erase_receiving.symm
  | endWriting writing =>
    refine ⟨[.stop, .finish 1], by simp [SupervisedGroup.Event.starts], ?_⟩
    have runs : Member.task 1 ∈ n.supervised := by simp [supervised, Member.loops, writing]
    have asked : n.requestStop.Follows (g.after .stop) := h.stop rfl rfl
    refine asked.finish runs ?_ rfl
    rw [supervised, supervised, show n.requestStop.writer.isSome = true from writing]
    exact Member.erase_writing.symm
  | endReading reading =>
    refine ⟨[.finish 2], by simp [SupervisedGroup.Event.starts], ?_⟩
    have runs : Member.task 2 ∈ n.supervised := by simp [supervised, Member.loops, reading]
    refine h.finish runs ?_ rfl
    rw [supervised, supervised, reading]
    exact Member.erase_reading.symm

theorem Follows.changes (h : n.Follows g) (changes : n.Changes n') :
    ∃ events : List SupervisedGroup.Event, (∀ ev ∈ events, ev.starts = none) ∧
      n'.Follows (events.foldl SupervisedGroup.after g) := by
  induction changes with
  | refl => exact ⟨[], by simp, h⟩
  | tail _ change ih =>
    obtain ⟨events, idle, follows⟩ := ih
    obtain ⟨more, idle', follows'⟩ := follows.change change
    refine ⟨events ++ more, fun ev mem => ?_, ?_⟩
    · exact (List.mem_append.mp mem).elim (idle ev) (idle' ev)
    · rw [List.foldl_append]
      exact follows'

/-- None of the tasks that a node supervises runs. -/
structure Ended (n : Node) : Prop where
  running : n.endpoint.supervisor.running = 0
  sentinel : n.sentinel = false
  receiving : n.receiving = false
  writer : n.writer = none
  reader : n.reader = none

theorem Follows.ended (h : n.Follows g) (running : g.supervisor.running = 0)
    (empty : g.members = []) : n.Ended := by
  have none := h.members.trans empty
  rw [supervised] at none
  obtain ⟨sentinel, receiving, writer, reader⟩ := Member.loops_eq_nil none
  rw [Option.isSome_eq_false_iff, Option.isNone_iff_eq_none] at writer reader
  exact ⟨h.supervisor ▸ running, sentinel, receiving, writer, reader⟩

end Node

namespace Scene

/-- A node starts all the tasks that it supervises when it comes to be. -/
theorem Starts.follows {net : Network} (starts : Starts net) {side : Side} {n : Node}
    (here : net.node? side = some n) :
    ∃ tasks, n.Follows (SupervisedGroup.run (List.replicate tasks .spawn)) := by
  obtain ⟨s, ⟨transport, rfl⟩ | rfl | ⟨faults, rfl⟩⟩ := starts.node here
  · exact ⟨0, rfl, rfl⟩
  · exact ⟨1, rfl, rfl⟩
  · exact ⟨3, rfl, rfl⟩

/-- Whoever waited for the end of an endpoint finds that there was a moment at which none of its tasks
ran, and none was started since. -/
theorem ended_of_hasStopped {net : Network} (starts : Starts net) {events : List Incident} {side : Side}
    (joined : Session.hasStopped (run { net } events).net side = true) :
    ∃ n before rest, (run { net } events).net.node? side = some n ∧
      n.Follows (SupervisedGroup.run (before ++ rest)) ∧ SupervisedGroup.Stilled before rest ∧
      (∀ ev ∈ rest, ev.starts = none) ∧ n.Ended := by
  cases here : (run { net } events).net.node? side with
  | none => simp [Session.hasStopped, here] at joined
  | some n =>
    rw [Session.hasStopped, here, Option.any_some] at joined
    obtain ⟨first, start, changes⟩ := Network.Nodewise.origin (changes_run { net } events) here
    obtain ⟨tasks, follows⟩ := starts.follows start
    obtain ⟨later, idle, follows⟩ := follows.changes changes
    rw [SupervisedGroup.run, ← List.foldl_append] at follows
    rw [follows.supervisor] at joined
    obtain ⟨before, rest, whole, stilled, still⟩ := SupervisedGroup.exists_stilled_idle idle joined
    rw [whole] at follows
    obtain ⟨running, nobody⟩ := stilled.still still
    have empty := (SupervisedGroup.holds_run (before ++ rest)).members_eq_nil_iff.mpr nobody
    exact ⟨n, before, rest, rfl, follows, stilled, still, follows.ended running empty⟩

end Scene

/-- Once all tasks are seen to have stopped, a stop was requested, none ran at some moment after that,
and whoever was started by then has ended for good. The supervisor of an endpoint is that of a group
which starts nothing after that moment: whoever waits for the end of an endpoint finds that all of its
tasks have ended. -/
theorem ended_of_allStopped (events : List SupervisedGroup.Event) {net : Network}
    (starts : Scene.Starts net) (incidents : List Incident) (side : Side) :
    ((SupervisedGroup.run events).supervisor.allStopped = true →
      ∃ before rest, events = before ++ rest ∧ SupervisedGroup.Stilled before rest) ∧
    (Session.hasStopped (Scene.run { net } incidents).net side = true →
      ∃ n before rest, (Scene.run { net } incidents).net.node? side = some n ∧
        n.Follows (SupervisedGroup.run (before ++ rest)) ∧ SupervisedGroup.Stilled before rest ∧
        (∀ ev ∈ rest, ev.starts = none) ∧ n.Ended) :=
  ⟨SupervisedGroup.exists_stilled, Scene.ended_of_hasStopped starts⟩

theorem ended_of_allStopped_over_stream :
    (∃ before rest, [.stop, .heed .sentinel, .hold] = before ++ rest ∧
      SupervisedGroup.Stilled before rest) ∧
    ∃ n before rest, (Scene.run { net := .attach {} 16 {} }
        [.ask .a .stop, .go (.sentinel .a), .cancel .a .reading, .go (.writing .a true),
          .go (.receiving .a true)]).net.node? .a = some n ∧
      n.Follows (SupervisedGroup.run (before ++ rest)) ∧ SupervisedGroup.Stilled before rest ∧
      (∀ ev ∈ rest, ev.starts = none) ∧ n.Ended := by
  obtain ⟨group, scene⟩ := ended_of_allStopped [.stop, .heed .sentinel, .hold] (.attach {} 16 {})
    [.ask .a .stop, .go (.sentinel .a), .cancel .a .reading, .go (.writing .a true),
      .go (.receiving .a true)] .a
  exact ⟨group rfl, scene rfl⟩

end DuplexRpc

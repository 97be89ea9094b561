import DuplexRpc.Proofs.Network.Happening

/-! The side that asks. `Asking` ties the requests that an endpoint posted to its pool, and the
responses that it handled to the outcomes that its callers get. -/

namespace DuplexRpc

namespace Trace

variable (t u : Trace)

@[simp] theorem posted_append : (t.append u).posted = t.posted ++ u.posted := rfl
@[simp] theorem handled_append : (t.append u).handled = t.handled ++ u.handled := rfl
@[simp] theorem started_append : (t.append u).started = t.started ++ u.started := rfl
@[simp] theorem ended_append : (t.append u).ended = t.ended ++ u.ended := rfl
@[simp] theorem resolved_append : (t.append u).resolved = t.resolved ++ u.resolved := rfl
@[simp] theorem taken_append : (t.append u).taken = t.taken ++ u.taken := rfl
@[simp] theorem dropped_append : (t.append u).dropped = t.dropped ++ u.dropped := rfl

@[simp] theorem requests_append : (t.append u).requests = t.requests ++ u.requests :=
  List.filterMap_append

@[simp] theorem responses_append : (t.append u).responses = t.responses ++ u.responses :=
  List.filterMap_append

@[simp] theorem asked_append : (t.append u).asked = t.asked ++ u.asked :=
  List.filterMap_append

@[simp] theorem answers_append : (t.append u).answers = t.answers ++ u.answers :=
  List.filterMap_append

end Trace

theorem Message.requests_of_notifications {ms : List Message}
    (h : ∀ m ∈ ms, ∃ n, m = .notification n) : ms.filterMap Message.request? = [] := by
  rw [List.filterMap_eq_nil_iff]
  rintro m hm
  obtain ⟨n, rfl⟩ := h m hm
  rfl

theorem Message.responses_of_notifications {ms : List Message}
    (h : ∀ m ∈ ms, ∃ n, m = .notification n) : ms.filterMap Message.response? = [] := by
  rw [List.filterMap_eq_nil_iff]
  rintro m hm
  obtain ⟨n, rfl⟩ := h m hm
  rfl

theorem Role.requests_answer (role : Role) (ending : Ending) :
    (role.answer ending).filterMap Message.request? = [] := by
  cases role with
  | handler origin => cases origin <;> rfl
  | caller => rfl

/-! ### Tickets that are left behind -/

namespace PendingPool

variable {pool pool' : PendingPool} {t : Nat}

/-- The ticket was given out and its request no longer waits. -/
def Left (pool : PendingPool) (t : Nat) : Prop :=
  t < pool.nextTicket ∧ ∀ q ∈ pool.entries, q.ticket ≠ t

/-- The pool goes on: no ticket comes back, and what is in its slot stays until it is taken. -/
structure Passes (pool pool' : PendingPool) : Prop where
  sound : pool'.Sound
  left : ∀ t, pool.Left t → pool'.Left t
  slots : ∀ t, pool.Left t →
    pool'.slots.find? t = pool.slots.find? t ∨ pool'.slots.find? t = none

theorem Passes.trans {pool'' : PendingPool} (h : pool.Passes pool') (h' : pool'.Passes pool'') :
    pool.Passes pool'' where
  sound := h'.sound
  left t left := h'.left t (h.left t left)
  slots t left := by
    rcases h'.slots t (h.left t left) with same | gone
    · rw [same]
      exact h.slots t left
    · exact Or.inr gone

theorem Shrinks.passes (h : pool.Shrinks pool') (sound : pool.Sound) : pool.Passes pool' where
  sound := h.sound sound
  left _ left := ⟨h.next ▸ left.1, fun q hq => left.2 q (h.entries q hq)⟩
  slots t left := h.slots t left.2

/-- A response that finds an entry leaves its result under the ticket of the entry. -/
theorem Sound.left_close (sound : pool.Sound) {p : PendingRequest} (hp : p ∈ pool.entries)
    (outcome : Outcome) :
    (pool.close p (.filled outcome)).Left p.ticket ∧
      ((pool.close p (.filled outcome)).slots.find? p.ticket = some (.filled outcome) ∨
        (pool.close p (.filled outcome)).slots.find? p.ticket = none) := by
  refine ⟨⟨sound.below p hp, fun q hq => (mem_entries_close.mp hq).2⟩, ?_⟩
  rw [slot_close_self]
  cases hs : pool.slots.find? p.ticket with
  | none => exact Or.inr rfl
  | some slot =>
    rw [sound.waits p hp slot hs]
    exact Or.inl rfl

theorem Sound.passes_enter (sound : pool.Sound) {r : Request} (resultType : String)
    (deadline : Option Nat) (free : pool.find? r.id = none) :
    pool.Passes (pool.enter r resultType deadline) where
  sound := sound.enter resultType deadline free
  left t left := by
    refine ⟨Nat.lt_succ_of_lt left.1, fun q hq => ?_⟩
    rcases List.mem_append.mp hq with old | new
    · exact left.2 q old
    · rw [List.mem_singleton.mp new]
      exact Nat.ne_of_gt left.1
  slots t left := by
    refine Or.inl ?_
    simp only [PendingPool.enter, Slots.find?_append_single, if_neg (Nat.ne_of_lt left.1), Option.or_none]

/-- An outcome lies in a slot that is left behind. -/
theorem Sound.left_of_outcome (sound : pool.Sound) {outcome : Outcome}
    (h : (pool.slots.find? t).bind Slot.outcome? = some outcome) : pool.Left t := by
  obtain ⟨slot, found, there⟩ := Option.bind_eq_some_iff.mp h
  constructor
  · refine Nat.lt_of_not_le fun le => ?_
    rw [sound.fresh t le] at found
    cases found
  · rintro q hq rfl
    rw [sound.waits q hq slot found] at there
    cases there

end PendingPool

/-! ### The invariant -/

/-- What holds of an endpoint whose ids come from `source`, by the trace of its side. -/
structure Asking (source : IdSource) (e : Endpoint) (trace : Trace) : Prop where
  sound : e.pool.Sound
  ids : e.ids = source.after e.requestCount
  made : (trace.requests.map Request.id).Sublist (source.takeMany e.requestCount)
  waiting : ∀ q ∈ e.pool.entries, q.request ∈ trace.requests
  asked : ∀ x ∈ trace.resolved, x.1.request ∈ trace.requests
  answered : ∀ x ∈ trace.resolved, x.2 ∈ trace.answers ∧ x.1.id.same x.2.id = true
  left : ∀ x ∈ trace.resolved, e.pool.Left x.1.ticket
  kept : ∀ x ∈ trace.resolved, e.pool.slots.find? x.1.ticket = some (.filled x.2.result) ∨
    e.pool.slots.find? x.1.ticket = none
  spent : ∀ y ∈ trace.taken, e.pool.Left y.1
  told : ∀ x ∈ trace.resolved, ∀ y ∈ trace.taken, y.1 = x.1.ticket → y.2 = x.2.result
  matched : trace.answers.length = trace.resolved.length + e.counters.unmatchedResponses
  unanswered : source.Distinct e.requestCount →
    ∀ q ∈ e.pool.entries, ∀ r ∈ trace.answers, q.id.same r.id = false

namespace Asking

variable {source : IdSource} {e e' : Endpoint} {trace new : Trace}

theorem via (h : Asking source e trace) (t : Transport) : Asking source (e.via t) trace :=
  ⟨h.sound, h.ids, h.made, h.waiting, h.asked, h.answered, h.left, h.kept, h.spent, h.told,
    h.matched, h.unanswered⟩

theorem fresh (e : Endpoint) (pool : e.pool = {}) (notes : e.notes = []) (counters : e.counters = {}) :
    Asking e.ids e {} := by
  have none : ∀ {α : Type} {P : α → Prop}, ∀ x ∈ ([] : List α), P x :=
    fun _ hx => absurd hx List.not_mem_nil
  have count : e.requestCount = 0 := by rw [Endpoint.requestCount, notes]; rfl
  have entries : e.pool.entries = [] := by rw [pool]
  refine ⟨?_, ?_, List.nil_sublist _, ?_, none, none, none, none, none, none, ?_, ?_⟩
  · rw [pool]
    exact PendingPool.sound_empty
  · rw [count]
    rfl
  · rw [entries]
    exact none
  · rw [counters]
    rfl
  · exact fun _ _ _ => none

/-- What has to be shown of something that happens. -/
theorem next (h : Asking source e trace) (passes : e.pool.Passes e'.pool)
    (ids : e'.ids = source.after e'.requestCount)
    (made : ((trace.append new).requests.map Request.id).Sublist (source.takeMany e'.requestCount))
    (waiting : ∀ q ∈ e'.pool.entries, q ∈ e.pool.entries ∨ q.request ∈ new.requests)
    (resolved : ∀ x ∈ new.resolved, x.1 ∈ e.pool.entries ∧ x.2 ∈ new.answers ∧
      x.1.id.same x.2.id = true ∧ e'.pool.Left x.1.ticket ∧
      (e'.pool.slots.find? x.1.ticket = some (.filled x.2.result) ∨
        e'.pool.slots.find? x.1.ticket = none))
    (taken : ∀ y ∈ new.taken, (e.pool.slots.find? y.1).bind Slot.outcome? = some y.2)
    (apart : new.resolved = [] ∨ new.taken = [])
    (matched : new.answers.length + e.counters.unmatchedResponses =
      new.resolved.length + e'.counters.unmatchedResponses)
    (unanswered : source.Distinct e'.requestCount →
      ∀ q ∈ e'.pool.entries, ∀ r ∈ (trace.append new).answers, q.id.same r.id = false) :
    Asking source e' (trace.append new) where
  sound := passes.sound
  ids := ids
  made := made
  waiting q hq := by
    rw [Trace.requests_append, List.mem_append]
    exact (waiting q hq).imp (h.waiting q) id
  asked x hx := by
    rw [Trace.requests_append, List.mem_append]
    rcases List.mem_append.mp hx with old | fresh
    · exact Or.inl (h.asked x old)
    · exact Or.inl (h.waiting x.1 (resolved x fresh).1)
  answered x hx := by
    rw [Trace.answers_append, List.mem_append]
    rcases List.mem_append.mp hx with old | fresh
    · exact ⟨Or.inl (h.answered x old).1, (h.answered x old).2⟩
    · obtain ⟨-, mem, same, -⟩ := resolved x fresh
      exact ⟨Or.inr mem, same⟩
  left x hx := by
    rcases List.mem_append.mp hx with old | fresh
    · exact passes.left _ (h.left x old)
    · exact (resolved x fresh).2.2.2.1
  kept x hx := by
    rcases List.mem_append.mp hx with old | fresh
    · rcases passes.slots _ (h.left x old) with same | gone
      · rw [same]
        exact h.kept x old
      · exact Or.inr gone
    · exact (resolved x fresh).2.2.2.2
  spent y hy := by
    rcases List.mem_append.mp hy with old | fresh
    · exact passes.left _ (h.spent y old)
    · exact passes.left _ (h.sound.left_of_outcome (taken y fresh))
  told x hx y hy same := by
    rcases List.mem_append.mp hx with oldX | newX <;> rcases List.mem_append.mp hy with oldY | newY
    · exact h.told x oldX y oldY same
    · -- the outcome is what the response left in the slot
      have there := taken y newY
      rw [same] at there
      rcases h.kept x oldX with filled | gone
      · rw [filled] at there
        exact (Option.some.inj there).symm
      · rw [gone] at there
        cases there
    · -- a ticket under which an outcome was taken has no entry
      exact absurd same.symm ((h.spent y oldY).2 x.1 (resolved x newX).1)
    · rcases apart with none | none
      · rw [none] at newX
        exact absurd newX List.not_mem_nil
      · rw [none] at newY
        exact absurd newY List.not_mem_nil
  matched := by
    have := h.matched
    simp only [Trace.answers_append, Trace.resolved_append, List.length_append]
    omega
  unanswered := unanswered

theorem shrinks (h : Asking source e trace) (steady : e.Steady e') (shrinks : e.pool.Shrinks e'.pool)
    (requests : new.requests = []) (answers : new.answers = []) (resolved : new.resolved = [])
    (taken : ∀ y ∈ new.taken, (e.pool.slots.find? y.1).bind Slot.outcome? = some y.2) :
    Asking source e' (trace.append new) := by
  refine h.next (shrinks.passes h.sound) ?_ ?_ ?_ ?_ taken (Or.inl resolved) ?_ ?_
  · rw [steady.ids, steady.count]
    exact h.ids
  · rw [Trace.requests_append, requests, List.append_nil, steady.count]
    exact h.made
  · exact fun q hq => Or.inl (shrinks.entries q hq)
  · rw [resolved]
    exact fun _ hx => absurd hx List.not_mem_nil
  · rw [answers, resolved, steady.unmatched]
    rfl
  · rw [Trace.answers_append, answers, List.append_nil, steady.count]
    exact fun distinct q hq => h.unanswered distinct q (shrinks.entries q hq)

theorem quiet (h : Asking source e trace) (quiet : e.Quiet e') (requests : new.requests = [])
    (answers : new.answers = []) (resolved : new.resolved = []) (taken : new.taken = []) :
    Asking source e' (trace.append new) :=
  h.shrinks quiet.toSteady quiet.shrinks requests answers resolved
    fun _ hy => absurd (taken ▸ hy) List.not_mem_nil

/-- A call. The id of a new request is the id of no response that came before it. -/
theorem launched {clock : Nat} {posted : List Message} (h : Asking source e trace)
    (launched : e.Launched clock posted e')
    (known : ∀ r ∈ trace.answers, ∃ p ∈ trace.requests, p.id = r.id) :
    Asking source e' (trace.append { posted }) := by
  have silent : ∀ y ∈ ([] : List (Nat × Outcome)),
      (e.pool.slots.find? y.1).bind Slot.outcome? = some y.2 :=
    fun _ hy => absurd hy List.not_mem_nil
  have none : ∀ {P : PendingRequest × Response → Prop}, ∀ x ∈ ([] : List _), P x :=
    fun _ hx => absurd hx List.not_mem_nil
  cases launched with
  | idle _ quiet => exact h.quiet quiet rfl rfl rfl rfl
  | inFlight e' quiet q method found =>
    have count : ({ e' with ids := e'.ids.take.2 }.note
        (.requesting e'.ids.take.1 method)).requestCount = e.requestCount + 1 :=
      (Endpoint.requestCount_note _ _).trans (congrArg (· + 1) quiet.count)
    refine h.next (quiet.shrinks.passes h.sound) ?_ ?_ ?_ none silent (Or.inl rfl) ?_ ?_
    · rw [count, IdSource.after, ← h.ids, ← quiet.ids]
      rfl
    · rw [Trace.requests_append, count]
      exact (List.append_nil trace.requests).symm ▸
        h.made.trans (source.takeMany_sublist e.requestCount)
    · exact fun q hq => Or.inl (quiet.shrinks.entries q hq)
    · exact congrArg (0 + ·) quiet.unmatched.symm
    · intro distinct q hq r hr
      rw [count] at distinct
      rw [Trace.answers_append] at hr
      refine h.unanswered distinct.of_succ q (quiet.shrinks.entries q hq) r ?_
      simpa [Trace.answers] using hr
  | posted e' quiet method params timeout resultType free =>
    have count : (e'.entered clock method params timeout resultType).requestCount =
        e.requestCount + 1 :=
      (Endpoint.requestCount_note { e' with ids := e'.ids.take.2 }
        (.requesting e'.ids.take.1 method)).trans (congrArg (· + 1) quiet.count)
    have passes := quiet.shrinks.passes h.sound
    have id : e'.ids.take.1 = (source.after e.requestCount).take.1 := by
      rw [quiet.ids, h.ids]
    have entries : ∀ q ∈ (e'.entered clock method params timeout resultType).pool.entries,
        q ∈ e.pool.entries ∨ q.request = { id := e'.ids.take.1, method, params } := by
      intro q hq
      rcases List.mem_append.mp hq with old | new
      · exact Or.inl (quiet.shrinks.entries q old)
      · exact Or.inr (congrArg PendingRequest.request (List.mem_singleton.mp new))
    refine h.next (passes.trans (passes.sound.passes_enter resultType _ free)) ?_ ?_ ?_ none silent
      (Or.inl rfl) ?_ ?_
    · rw [count, IdSource.after, ← h.ids, ← quiet.ids]
      rfl
    · rw [Trace.requests_append, count, IdSource.takeMany_succ_last, List.map_append, ← id]
      exact h.made.append (List.Sublist.refl _)
    · intro q hq
      refine (entries q hq).imp_right fun new => ?_
      rw [new]
      exact List.mem_cons_self
    · exact congrArg (0 + ·) quiet.unmatched.symm
    · intro distinct q hq r hr
      rw [count] at distinct
      have old : r ∈ trace.answers := by simpa [Trace.answers] using hr
      rcases entries q hq with before | new
      · exact h.unanswered distinct.of_succ q before r old
      · obtain ⟨p, hp, same⟩ := known r old
        have fresh := distinct.next (h.made.subset (List.mem_map_of_mem hp))
        rw [PendingRequest.id, new, id, Id.same_comm, ← same]
        exact fresh

/-- A response is handled. No entry with its id is left. -/
theorem response (h : Asking source e trace) (r : Response) :
    Asking source (e.takeResponse r)
      (trace.append { handled := [.response r], resolved := e.pool.matched [r] }) := by
  have requests : (trace.append
      { handled := [.response r], resolved := e.pool.matched [r] }).requests = trace.requests := by
    rw [Trace.requests_append]
    exact List.append_nil _
  have silent : ∀ y ∈ ([] : List (Nat × Outcome)),
      (e.pool.slots.find? y.1).bind Slot.outcome? = some y.2 :=
    fun _ hy => absurd hy List.not_mem_nil
  have answers : ∀ r' ∈ (trace.append
      { handled := [.response r], resolved := e.pool.matched [r] }).answers,
      r' ∈ trace.answers ∨ r' = r := by
    intro r' hr'
    rw [Trace.answers_append] at hr'
    exact (List.mem_append.mp hr').imp_right List.mem_singleton.mp
  cases found : e.pool.find? r.id with
  | none =>
    have matched : e.pool.matched [r] = [] := by
      simp only [PendingPool.matched, List.filterMap_cons, found, Option.map_none,
        List.filterMap_nil]
    have count : (e.note (.unmatched r.id)).countUnmatched.requestCount = e.requestCount :=
      e.requestCount_note (.unmatched r.id)
    rw [Endpoint.takeResponse_of_find?_none found]
    refine h.next ((PendingPool.Shrinks.refl _).passes h.sound) ?_ ?_ (fun q hq => Or.inl hq) ?_
      silent (Or.inr rfl) ?_ ?_
    · rw [count]
      exact h.ids
    · rw [requests, count]
      exact h.made
    · rw [matched]
      exact fun _ hx => absurd hx List.not_mem_nil
    · rw [matched]
      show 1 + e.counters.unmatchedResponses = 0 + (e.counters.unmatchedResponses + 1)
      omega
    · intro distinct q hq r' hr'
      rw [count] at distinct
      rcases answers r' hr' with old | rfl
      · exact h.unanswered distinct q hq r' old
      · exact PendingPool.find?_eq_none.mp found q hq
  | some p =>
    obtain ⟨hp, same⟩ := PendingPool.find?_eq_some found
    have matched : e.pool.matched [r] = [(p, r)] := by
      simp only [PendingPool.matched, List.filterMap_cons, found, Option.map_some,
        List.filterMap_nil]
    have count : ({ e with pool := e.pool.close p (.filled r.result) }.note
        (.resolved r.id)).requestCount = e.requestCount :=
      Endpoint.requestCount_note _ (.resolved r.id)
    have closed : e.pool.Shrinks (e.pool.close p (.filled r.result)) :=
      PendingPool.shrinks_close hp nofun
    rw [Endpoint.takeResponse_of_find? found]
    refine h.next (closed.passes h.sound) ?_ ?_ ?_ ?_ silent (Or.inr rfl) ?_ ?_
    · rw [count]
      exact h.ids
    · rw [requests, count]
      exact h.made
    · exact fun q hq => Or.inl (closed.entries q hq)
    · rw [matched]
      intro x hx
      rw [List.mem_singleton.mp hx]
      exact ⟨hp, List.mem_cons_self, same, h.sound.left_close hp r.result⟩
    · rw [matched]
      rfl
    · intro distinct q hq r' hr'
      rw [count] at distinct
      obtain ⟨mem, other⟩ := PendingPool.mem_entries_close.mp hq
      rcases answers r' hr' with old | rfl
      · exact h.unanswered distinct q mem r' old
      · refine Bool.eq_false_iff.mpr fun equal => other ?_
        rw [h.sound.eq_of_same mem hp (Id.same_trans equal (Id.same_symm same))]

theorem step {clock : Nat} {tasks tasks' : List Task} (h : Asking source e trace)
    (happening : Happening clock e tasks new e' tasks')
    (known : ∀ r ∈ trace.answers, ∃ p ∈ trace.requests, p.id = r.id) :
    Asking source e' (trace.append new) := by
  have silent : ∀ y ∈ ([] : List (Nat × Outcome)),
      (e.pool.slots.find? y.1).bind Slot.outcome? = some y.2 :=
    fun _ hy => absurd hy List.not_mem_nil
  cases happening with
  | quiet posted quiet notifications =>
    exact h.quiet quiet (Message.requests_of_notifications notifications) rfl rfl rfl
  | launched launched => exact h.launched launched known
  | took ticket there =>
    refine h.shrinks (e.steady_pool _) (e.pool.shrinks_eraseSlot ticket) rfl rfl rfl ?_
    intro y hy
    rw [List.mem_singleton.mp hy]
    exact there
  | left ticket id =>
    refine h.shrinks (e.steady_leave ticket id) ?_ rfl rfl rfl silent
    rw [Endpoint.pool_leave]
    exact e.pool.shrinks_leave ticket id
  | expired timer armed =>
    refine h.shrinks (e.steady_expire timer) ?_ rfl rfl rfl silent
    rw [Endpoint.pool_expire]
    exact e.pool.shrinks_expire h.sound armed
  | spawned handled more quiet notifications =>
    exact h.quiet quiet rfl (Message.responses_of_notifications notifications) rfl rfl
  | asked => exact h.quiet (.refl e) rfl rfl rfl rfl
  | refused more quiet => exact h.quiet quiet rfl rfl rfl rfl
  | answered r => exact h.response r
  | ended quiet => exact h.quiet quiet (Role.requests_answer _ _) rfl rfl rfl

end Asking

end DuplexRpc

import DuplexRpc.Proofs.Arguments
import DuplexRpc.Proofs.Enrolment
import DuplexRpc.Proofs.Network.Holding

/-! A call whose handler reacts at once. The handler runs for this call alone, with what was asked,
and its reaction is what comes back. -/

namespace DuplexRpc

/-- How a handler reacts to arguments. -/
inductive Reaction where
  | value (v : Value)
  | error (e : RpcError)
  | panic (message : String)

namespace Reaction

def script : Reaction → Script
  | .value v => .done (.ok v)
  | .error e => .done (.error e)
  | .panic message => .panic (.text message)

def ending : Reaction → Ending
  | .value v => .outcome (.ok v)
  | .error e => .outcome (.error e)
  | .panic message => .panic (.text message)

/-- What the caller gets. -/
def outcome : Reaction → Outcome
  | .value v => .ok v
  | .error e => .error e
  | .panic message => .error (.internal message)

/-- The wire carries the reaction as it is. -/
def IsPlain : Reaction → Prop
  | .value v => v.IsOrdered
  | .error e => e.IsPlain
  | .panic _ => True

theorem toOutcome_ending (reaction : Reaction) : reaction.ending.toOutcome = reaction.outcome := by
  cases reaction <;> rfl

theorem ending?_of_stand {t : Task} {reaction : Reaction} (h : t.stand = .going reaction.script) :
    t.ending? = some reaction.ending := by
  rw [Task.ending?, h]
  cases reaction <;> rfl

theorem carried_outcome {reaction : Reaction} (plain : reaction.IsPlain) :
    Outcome.carried reaction.outcome = reaction.outcome := by
  cases reaction with
  | value v => exact congrArg Except.ok (v.sorted_of_isOrdered plain)
  | error e => exact congrArg Except.error (RpcError.carried_of_isPlain plain)
  | panic message => rfl

end Reaction

/-- A result that is read as any value is what was sent. -/
theorem bind_decodeResult_value (outcome : Outcome) :
    outcome.bind (decodeResult .value) = outcome := by
  cases outcome <;> rfl

namespace Course

/-- What becomes of the call that a side makes under `id`, whose outcome is kept under `ticket`: the
other side runs its handler, which does what `reaction` says, and this is what the caller gets. -/
structure Transparent (c : Course) (side : Side) (id : Id) (ticket : Nat) (reaction : Reaction) :
    Prop where
  /-- The handler starts once at most, and does what it does with the arguments of the call. -/
  once : (Task.requestIds (c.trace side.other).started).countP (·.same id) ≤ 1
  runs : ∀ t ∈ (c.trace side.other).started, ∀ i ∈ t.role.requestId?, i.same id = true →
    t.stand = .going reaction.script
  /-- No other outcome is taken. -/
  outcome : ∀ y ∈ (c.trace side).taken, y.1 = ticket →
    y.2.bind (decodeResult .value) = reaction.outcome
  /-- Once nothing can go on, the handler has run, and its outcome was taken or can be. -/
  ran : c.net.able = [] →
    (Task.requestIds (c.trace side.other).started).countP (·.same id) = 1 ∧
      ∃ t, (t, reaction.ending) ∈ (c.trace side.other).ended ∧ ∃ i ∈ t.role.requestId?, i.same id = true
  told : c.net.able = [] →
    (∃ y ∈ (c.trace side).taken, y.1 = ticket) ∨
      ((c.net.endpoint side).poll (.waiting id ticket)).1.map (·.bind (decodeResult .value)) =
        some reaction.outcome

/-- What is needed of the call `p` and of the handler that answers it. -/
structure Answerable (handlers : List (String × Handler)) (c : Course) (side : Side)
    (p : PendingRequest) (handler : Handler) (reaction : Reaction) : Prop where
  held : Held p (c.net.endpoint side) (c.trace side)
  sole : ((c.trace side).requests.filter (·.id.same p.id)).length ≤ 1
  carried : p.request.carried = p.request
  named : p.request.method.isEmpty = false
  found : Fields.get? p.request.method handlers = some handler
  script : handler { method := p.request.method, id := some p.id } p.request.params = reaction.script
  plain : reaction.IsPlain

namespace Exchanges

variable {codec : Codec} {sources : Side → IdSource} {handlers : Side → List (String × Handler)}
  {c : Course} {side : Side} {p : PendingRequest} {handler : Handler} {reaction : Reaction}

theorem posted_of_held (h : Exchanges codec sources handlers c)
    (held : Held p (c.net.endpoint side) (c.trace side)) : p.request ∈ (c.trace side).requests := by
  cases held with
  | waits mem => exact (h.asking side).waiting p mem
  | settled r resolved => exact (h.asking side).asked _ resolved

/-- A request with the id of the call is the request of the call. -/
theorem eq_of_sole (h : Exchanges codec sources handlers c)
    (call : Answerable (handlers side.other) c side p handler reaction) {q : Request}
    (hq : q ∈ (c.trace side).requests) (same : q.id.same p.id = true) : q = p.request := by
  have own : p.request ∈ (c.trace side).requests.filter (·.id.same p.id) :=
    List.mem_filter.mpr ⟨h.posted_of_held call.held, Id.same_refl _⟩
  have other : q ∈ (c.trace side).requests.filter (·.id.same p.id) :=
    List.mem_filter.mpr ⟨hq, same⟩
  have sole := call.sole
  rcases hf : (c.trace side).requests.filter (·.id.same p.id) with _ | ⟨x, _ | ⟨y, more⟩⟩
  · rw [hf] at own
    cases own
  · rw [hf] at own other
    rw [List.mem_singleton.mp own, List.mem_singleton.mp other]
  · rw [hf, List.length_cons, List.length_cons] at sole
    omega

theorem eq_of_asked (h : Exchanges codec sources handlers c)
    (call : Answerable (handlers side.other) c side p handler reaction) {q : Request}
    (hq : q ∈ (c.trace side.other).asked) (same : q.id.same p.id = true) : q = p.request := by
  obtain ⟨sent, posted, rfl⟩ := List.mem_map.mp ((h.asked_sublist side).subset hq)
  rw [h.eq_of_sole call posted same, call.carried]

theorem started_once (h : Exchanges codec sources handlers c)
    (call : Answerable (handlers side.other) c side p handler reaction) :
    (Task.requestIds (c.trace side.other).started).countP (·.same p.id) ≤ 1 := by
  have ids := (h.answering side.other).once.trans ((h.asked_sublist side).map Request.id)
  have count : (((c.trace side).requests.map Request.carried).map Request.id).countP
      (·.same p.id) = ((c.trace side).requests.filter (·.id.same p.id)).length := by
    rw [List.map_map, List.countP_map, List.countP_eq_length_filter]
    rfl
  have most := ids.countP_le (p := (·.same p.id))
  have sole := call.sole
  omega

theorem stand_of_started (h : Exchanges codec sources handlers c)
    (call : Answerable (handlers side.other) c side p handler reaction) {t : Task}
    (started : t ∈ (c.trace side.other).started) {id : Id} (role : t.role.requestId? = some id)
    (same : id.same p.id = true) : t.stand = .going reaction.script := by
  rcases hr : t.role with (⟨id', method⟩ | method) | _
  · rw [hr] at role
    obtain rfl : id' = id := Option.some.inj role
    obtain ⟨q, hq, rfl, -, handler', found, stand⟩ :=
      (h.answering side.other).runs t started _ method hr
    obtain rfl := h.eq_of_asked call hq same
    obtain rfl := Option.some.inj (found.symm.trans call.found)
    rw [stand]
    exact congrArg Stand.going call.script
  all_goals
    rw [hr] at role
    cases role

/-- A response that resolves the call brings the reaction of the handler, whose task has ended. -/
theorem result_of_resolved (h : Exchanges codec sources handlers c)
    (call : Answerable (handlers side.other) c side p handler reaction) {r : Response}
    (resolved : (p, r) ∈ (c.trace side).resolved) :
    r.result = reaction.outcome ∧ ∃ first ∈ (c.trace side.other).started, ∃ last,
      first.Follows last ∧ (last, reaction.ending) ∈ (c.trace side.other).ended ∧
      first.role.requestId? = some p.id := by
  obtain ⟨answer, same⟩ := (h.asking side).answered _ resolved
  obtain ⟨q, hq, sameId, outcome, settles, result⟩ := h.settled answer
  rw [Id.same_comm, ← sameId] at same
  obtain rfl := h.eq_of_sole call hq same
  rw [call.carried] at settles
  cases settles with
  | ran handler' first last ending found started role stand ended ends follows =>
    have requestId : first.role.requestId? = some p.id := by
      rw [role]
      rfl
    have going := h.stand_of_started call started requestId (Id.same_refl _)
    have final := Reaction.ending?_of_stand going
    have same : last.ending? = first.ending? := follows.ending (by rw [final]; exact Option.some_ne_none _)
    rw [ends, final] at same
    obtain rfl := Option.some.inj same
    refine ⟨?_, first, started, last, follows, ended, requestId⟩
    rw [result, Reaction.toOutcome_ending, Reaction.carried_outcome call.plain]
  | refused err refused =>
    rw [Request.refusal?, call.named, call.found] at refused
    cases refused

/-! ### Once nothing can go on -/

theorem handled_of_idle (h : Exchanges codec sources handlers c) (idle : c.net.able = [])
    (side : Side) :
    (c.trace side.other).handled = (c.trace side).posted.map Message.carried := by
  obtain ⟨past, onWay, posted, handled, leaving⟩ := h.linked side
  have none : onWay = [] := by
    rw [h.live.leaving_of_idle idle] at leaving
    exact List.map_eq_nil_iff.mp leaving.symm
  rw [handled, posted, none, List.append_nil]

theorem not_running_of_idle (h : Exchanges codec sources handlers c) (idle : c.net.able = [])
    (call : Answerable (handlers side.other) c side p handler reaction) :
    p.id ∉ Task.requestIds (c.net.at_ side.other).tasks := by
  intro running
  obtain ⟨t, ht, role⟩ := List.mem_filterMap.mp running
  obtain ⟨first, started, follows⟩ := (h.answering side.other).known t ht
  have sameRole : first.role = t.role := congrArg Prod.snd follows.tag
  have going := h.stand_of_started call started (sameRole ▸ role) (Id.same_refl _)
  have final := Reaction.ending?_of_stand going
  have stand := follows.stand (by rw [final]; exact Option.some_ne_none _)
  exact h.live.stand_of_idle idle ht _ (stand.trans going)

theorem resolved_of_idle (h : Exchanges codec sources handlers c) (idle : c.net.able = [])
    (call : Answerable (handlers side.other) c side p handler reaction) :
    ∃ r, (p, r) ∈ (c.trace side).resolved ∧
      ((c.net.endpoint side).pool.slots.find? p.ticket = some (.filled r.result) ∨
        (p.ticket, r.result) ∈ (c.trace side).taken) := by
  cases call.held with
  | settled r resolved there => exact ⟨r, resolved, there⟩
  | waits mem vacant unanswered =>
    have asked : p.request ∈ (c.trace side.other).asked := by
      rw [Trace.asked, h.handled_of_idle idle side, Message.requests_carried, ← call.carried]
      exact List.mem_map_of_mem (h.posted_of_held call.held)
    have ids := (h.answering side.other).ids
    have carrier := ids.subset (List.mem_map_of_mem asked)
    have response : p.id ∈ (c.trace side.other).responses.map Response.id :=
      (List.mem_append.mp carrier).resolve_left (h.not_running_of_idle idle call)
    obtain ⟨r, hr, same⟩ := List.mem_map.mp response
    have answered : r.carried ∈ (c.trace side).answers := by
      have handled := h.handled_of_idle idle side.other
      rw [side.other_other] at handled
      rw [Trace.answers, handled, Message.responses_carried]
      exact List.mem_map_of_mem hr
    have different := unanswered _ answered
    have id : r.carried.id = p.id := same
    rw [id, Id.same_refl] at different
    cases different

theorem transparent (h : Exchanges codec sources handlers c)
    (call : Answerable (handlers side.other) c side p handler reaction) :
    c.Transparent side p.id p.ticket reaction where
  once := h.started_once call
  runs t ht i hi same := h.stand_of_started call ht hi same
  outcome y hy same := by
    rw [bind_decodeResult_value]
    rcases call.held with ⟨mem, -, -⟩ | ⟨r, resolved, -⟩
    · exact absurd same.symm (((h.asking side).spent y hy).2 p mem)
    · rw [(h.asking side).told _ resolved y hy same]
      exact (h.result_of_resolved call resolved).1
  ran idle := by
    obtain ⟨r, resolved, -⟩ := h.resolved_of_idle idle call
    obtain ⟨-, first, started, last, follows, ended, requestId⟩ := h.result_of_resolved call resolved
    constructor
    · have most := h.started_once call
      have mem : p.id ∈ Task.requestIds (c.trace side.other).started :=
        List.mem_filterMap.mpr ⟨first, started, requestId⟩
      have least : 0 < (Task.requestIds (c.trace side.other).started).countP (·.same p.id) :=
        List.countP_pos_iff.mpr ⟨_, mem, Id.same_refl _⟩
      omega
    · have sameRole : first.role = last.role := congrArg Prod.snd follows.tag
      exact ⟨last, ended, p.id, sameRole ▸ requestId, Id.same_refl _⟩
  told idle := by
    obtain ⟨r, resolved, there⟩ := h.resolved_of_idle idle call
    have result := (h.result_of_resolved call resolved).1
    rcases there with filled | taken
    · right
      rw [Endpoint.poll_waiting, filled]
      simp only [Option.bind_some, Slot.outcome?, Option.map_some, bind_decodeResult_value, result]
    · exact Or.inl ⟨_, taken, rfl⟩

end Exchanges

end Course

end DuplexRpc

import DuplexRpc.Proofs.Network.Exchange

/-! No request is lost and none is made twice. The requests that a side posted are on their way, or
their handlers run, or their responses are on their way back, or their responses were handled; and
what a caller gets is the outcome of its own request. -/

namespace DuplexRpc

/-- An id of a list of different ids is in it once. -/
theorem Id.countP_same {ids : List Id} (apart : ids.Pairwise fun i j => i.same j = false) {i : Id}
    (hi : i ∈ ids) : ids.countP (·.same i) = 1 := by
  obtain ⟨l, r, rfl⟩ := List.append_of_mem hi
  rw [List.pairwise_append, List.pairwise_cons] at apart
  obtain ⟨-, ⟨right, -⟩, left⟩ := apart
  have before : l.countP (·.same i) = 0 := by
    rw [List.countP_eq_zero]
    intro j hj same
    rw [left j hj i List.mem_cons_self] at same
    cases same
  have after : r.countP (·.same i) = 0 := by
    rw [List.countP_eq_zero]
    intro j hj same
    rw [Id.same_comm, right j hj] at same
    cases same
  rw [List.countP_append, List.countP_cons, before, after, if_pos i.same_refl]

namespace Course

variable {codec : Codec} {sources : Side → IdSource}
  {handlers : Side → List (String × Handler)} {c : Course} {side : Side}

/-- The requests of a side that are on their way. -/
def asking (c : Course) (side : Side) : List Request :=
  (c.net.coming side.other).filterMap Message.request?

/-- The responses to a side that are on their way. -/
def answering (c : Course) (side : Side) : List Response :=
  (c.net.coming side).filterMap Message.response?

/-- What carries the requests of a side, by id: their frames, the handlers that run for them, and
the frames of their responses. -/
def carriers (c : Course) (side : Side) : List Id :=
  (c.asking side).map Request.id ++ c.net.running side.other ++ (c.answering side).map Response.id

/-- Every request that a side posted is in one place. -/
def Balanced (c : Course) (side : Side) : Prop :=
  (c.trace side).requests.length =
    (c.asking side).length + (c.net.running side.other).length + (c.answering side).length +
      (c.trace side).resolved.length + (c.net.endpoint side).counters.unmatchedResponses

/-- What becomes of the requests of a side that has different ids for them, where the other side has
`handlers`. -/
structure Answered (c : Course) (side : Side) (handlers : List (String × Handler)) : Prop where
  /-- The handler of a request starts once at most. -/
  once : ∀ q ∈ (c.trace side).requests,
    (Task.requestIds (c.trace side.other).started).countP (·.same q.id) ≤ 1
  /-- A response that resolved a request carries the outcome to which the other side brought this
  very request. -/
  outcome : ∀ x ∈ (c.trace side).resolved, x.1.request ∈ (c.trace side).requests ∧
    ∃ outcome, (c.trace side.other).Settles handlers x.1.request.carried outcome ∧
      x.2.result = Outcome.carried outcome
  /-- The caller of such a request gets this outcome, if it did not give the call up. -/
  holding : ∀ x ∈ (c.trace side).resolved,
    ((c.net.endpoint side).pool.slots.find? x.1.ticket = some (.filled x.2.result) ∨
      (c.net.endpoint side).pool.slots.find? x.1.ticket = none) ∧
    ∀ y ∈ (c.trace side).taken, y.1 = x.1.ticket → y.2 = x.2.result
  /-- An entry of the pool waits for one carrier. -/
  carrier : ∀ q ∈ (c.net.endpoint side).pool.entries,
    q.request ∈ (c.trace side).requests ∧ (c.carriers side).countP (·.same q.id) = 1

namespace Exchanges

/-- The frames on their way are the messages that were posted and not handled. -/
theorem coming (h : Exchanges codec sources handlers c) (fits : c.Fits codec) (side : Side) :
    ∃ past onWay, (c.trace side).posted = past ++ onWay ∧
      (c.trace side.other).handled = past.map Message.carried ∧
      c.net.coming side.other = onWay.map Message.carried := by
  obtain ⟨past, onWay, posted, handled, leaving⟩ := h.linked side
  refine ⟨past, onWay, posted, handled, ?_⟩
  have format : (c.net.endpoint side.other).config.codec = codec := (h.live.node side.other).format
  rw [Network.coming, h.live.inbox, side.other_other, format, leaving]
  exact Codec.decodeAll_encodeAll fun m hm =>
    fits side m (posted ▸ List.mem_append_right past hm)

/-- The ids of the requests that were posted: those that a response came for, and the others with
what carries them. -/
theorem ids_perm (h : Exchanges codec sources handlers c) (fits : c.Fits codec) (side : Side) :
    ((c.trace side).requests.map Request.id).Perm
      ((c.trace side).answers.map Response.id ++ c.carriers side) := by
  obtain ⟨past, onWay, posted, handled, coming⟩ := h.coming fits side
  obtain ⟨back, backOnWay, sentBack, handledBack, comingBack⟩ := h.coming fits side.other
  rw [side.other_other] at handledBack comingBack
  have asked : (c.trace side.other).asked.map Request.id =
      (past.filterMap Message.request?).map Request.id := by
    rw [Trace.asked, handled, Message.requests_carried, List.map_map]
    rfl
  have answers : (c.trace side).answers.map Response.id =
      (back.filterMap Message.response?).map Response.id := by
    rw [Trace.answers, handledBack, Message.responses_carried, List.map_map]
    rfl
  have asking : (c.asking side).map Request.id =
      (onWay.filterMap Message.request?).map Request.id := by
    rw [Course.asking, coming, Message.requests_carried, List.map_map]
    rfl
  have answering : (c.answering side).map Response.id =
      (backOnWay.filterMap Message.response?).map Response.id := by
    rw [Course.answering, comingBack, Message.responses_carried, List.map_map]
    rfl
  have requests : (c.trace side).requests.map Request.id =
      (c.trace side.other).asked.map Request.id ++ (c.asking side).map Request.id := by
    rw [Trace.requests, posted, List.filterMap_append, List.map_append, asked, asking]
  have responses : (c.trace side.other).responses.map Response.id =
      (c.trace side).answers.map Response.id ++ (c.answering side).map Response.id := by
    rw [Trace.responses, sentBack, List.filterMap_append, List.map_append, answers, answering]
  have settled := (h.answering side.other).ids
  rw [responses] at settled
  rw [requests, carriers]
  refine (settled.append_right _).trans (List.perm_append_comm.trans ?_)
  rw [← List.append_assoc]
  exact List.perm_append_comm_assoc _ _ _

theorem balanced (h : Exchanges codec sources handlers c) (fits : c.Fits codec) (side : Side) :
    c.Balanced side := by
  have total := (h.ids_perm fits side).length_eq
  have matched := (h.asking side).matched
  simp only [List.length_map, List.length_append, carriers] at total
  rw [Balanced]
  omega

theorem apart (h : Exchanges codec sources handlers c) {side : Side}
    (distinct : (sources side).Distinct (c.net.endpoint side).requestCount) :
    ((c.trace side).requests.map Request.id).Pairwise fun i j => i.same j = false :=
  List.Pairwise.sublist (h.asking side).made distinct

theorem eq_of_same (h : Exchanges codec sources handlers c) {side : Side}
    (distinct : (sources side).Distinct (c.net.endpoint side).requestCount) {p q : Request}
    (hp : p ∈ (c.trace side).requests) (hq : q ∈ (c.trace side).requests)
    (same : p.id.same q.id = true) : p = q := by
  have ids := List.pairwise_map.mp (h.apart distinct)
  exact List.Pairwise.forall_of_forall_of_flip
    (R := fun p q : Request => p.id.same q.id = true → p = q)
    (fun _ _ _ => rfl) (ids.imp fun different same => by simp [different] at same)
    (ids.imp fun different same => by simp [Id.same_comm, different] at same) hp hq same

theorem answered (h : Exchanges codec sources handlers c) (fits : c.Fits codec)
    (distinct : (sources side).Distinct (c.net.endpoint side).requestCount) :
    c.Answered side (handlers side.other) := by
  have apart := h.apart distinct
  have waits := h.asking side
  refine ⟨fun q hq => ?_, fun x hx => ?_, fun x hx => ⟨waits.kept x hx, waits.told x hx⟩,
    fun q hq => ?_⟩
  · have asked : ((c.trace side.other).asked.map Request.id).Sublist
        ((c.trace side).requests.map Request.id) := by
      have sent := (h.asked_sublist side).map Request.id
      rw [List.map_map] at sent
      exact sent
    rw [← Id.countP_same apart (List.mem_map_of_mem hq)]
    exact ((h.answering side.other).once.trans asked).countP_le
  · obtain ⟨mem, same⟩ := waits.answered x hx
    obtain ⟨p, hp, sameId, settled⟩ := h.settled mem
    have first := waits.asked x hx
    refine ⟨first, ?_⟩
    rw [← sameId] at same
    rw [h.eq_of_same distinct first hp same]
    exact settled
  · have mem := waits.waiting q hq
    have one := Id.countP_same apart (List.mem_map_of_mem mem)
    have none : ((c.trace side).answers.map Response.id).countP (·.same q.id) = 0 := by
      rw [List.countP_eq_zero]
      intro i hi same
      obtain ⟨r, hr, rfl⟩ := List.mem_map.mp hi
      rw [Id.same_comm, waits.unanswered distinct q hq r hr] at same
      cases same
    rw [(h.ids_perm fits side).countP_eq, List.countP_append] at one
    refine ⟨mem, ?_⟩
    have sameId : q.request.id = q.id := rfl
    rw [sameId, none] at one
    omega

end Exchanges

/-- However the calls of both sides, their handlers, the deliveries, the timers and the callers that
give up follow each other: every request that a side posted is in one place, and where the ids of a
side are different, its requests are handled once and answered with their own outcomes. -/
theorem requests_conserved {a b : Setup} {net : Network}
    (connected : Network.connect a b = .ok net) (acts : List Network.Act)
    (fits : ((Course.mk net fun _ => {}).run acts).Fits a.config.codec) (side : Side) :
    ((Course.mk net fun _ => {}).run acts).Balanced side ∧
      ((net.endpoint side).ids.Distinct
          (((Course.mk net fun _ => {}).run acts).net.endpoint side).requestCount →
        ((Course.mk net fun _ => {}).run acts).Answered side
          (net.endpoint side.other).registry.requests) := by
  have h := (exchanges_of_connect connected).run acts fits
  exact ⟨h.balanced fits side, h.answered fits⟩

/-- An endpoint with a handler that gives its parameters back. -/
def mirror : Setup where
  registry := { requests := [("mirror", fun _ params => .done (.ok (params.getD .null)))] }

/-- Both sides ask under the same id, one for a method that the other does not have. Then a request
times out before its response comes. -/
def crossed : List Network.Act :=
  [.launch .a (.plain "mirror" (some (.arr [])) none "Value"),
    .launch .b (.plain "absent" none none "Value"), .go (.receiving .b true),
    .go (.receiving .a true), .go (.task .b 0), .go (.receiving .a true), .go (.receiving .b true),
    .launch .a (.plain "mirror" none (some ⟨1⟩) "Value"), .pass 1, .go (.timer .a 1),
    .go (.receiving .b true), .go (.task .b 1), .go (.receiving .a true)]

theorem requests_conserved_crossed :
    let net : Network := { a := mirror.queueNode, b := some mirror.queueNode, link := .queues }
    let c := (Course.mk net fun _ => {}).run crossed
    c.Balanced .a ∧ c.Answered .a mirror.registry.requests ∧ (c.trace .a).requests.length = 2 ∧
      (c.trace .a).resolved.length = 1 ∧ (c.net.endpoint .a).counters.unmatchedResponses = 1 := by
  have fits : ((Course.mk { a := mirror.queueNode, b := some mirror.queueNode, link := .queues }
      fun _ => {}).run crossed).Fits mirror.config.codec := by decide +kernel
  have conserved := requests_conserved (a := mirror) (b := mirror) rfl crossed fits .a
  exact ⟨conserved.1, conserved.2 (IdSource.distinct_sequence 0 (by decide +kernel)),
    by decide +kernel, by decide +kernel, by decide +kernel⟩

end Course

end DuplexRpc

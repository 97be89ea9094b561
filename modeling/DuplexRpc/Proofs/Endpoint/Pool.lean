import DuplexRpc.Endpoint.Call
import DuplexRpc.Endpoint.Dispatch
import DuplexRpc.Proofs.Pending.Pool

/-! What the operations of an endpoint do to its pool, and the four ways in which a request goes. -/

namespace DuplexRpc.Endpoint

variable {e : Endpoint}

@[simp] theorem pool_note (n : Note) : (e.note n).pool = e.pool := rfl

@[simp] theorem pool_stop : e.stop.pool = e.pool.failAll .interrupted := rfl

theorem pool_leave (ticket : Nat) (id : Id) :
    (e.leave ticket id).pool = (e.pool.leave ticket id).2 := by
  unfold leave
  split
  case h_1 h =>
    rw [h]
    rfl
  case h_2 h => rw [h]

theorem pool_drop (id : Id) (ticket : Nat) :
    (e.drop (.waiting id ticket)).pool = (e.pool.leave ticket id).2 :=
  pool_leave ticket id

theorem pool_expire (t : Timer) : (e.expire t).pool = (e.pool.expire t).2 := by
  unfold expire
  split
  case h_1 h =>
    rw [h]
    rfl
  case h_2 h => rw [h]

theorem ids_expire (t : Timer) : (e.expire t).ids = e.ids := by
  unfold expire
  split <;> rfl

theorem ids_leave (ticket : Nat) (id : Id) : (e.leave ticket id).ids = e.ids := by
  unfold leave
  split <;> rfl

/-- A response that finds its request ends it, and is reported. -/
theorem takeResponse_of_find? {r : Response} {p : PendingRequest} (h : e.pool.find? r.id = some p) :
    e.takeResponse r =
      { e with pool := e.pool.close p (.filled r.result) }.note (.resolved r.id) := by
  simp [takeResponse, resolveResponse, PendingPool.resolve, PendingPool.finish_of_find? h]

/-- A response that finds no request is reported and counted, and changes nothing else. -/
theorem takeResponse_of_find?_none {r : Response} (h : e.pool.find? r.id = none) :
    e.takeResponse r = (e.note (.unmatched r.id)).countUnmatched := by
  simp [takeResponse, resolveResponse, PendingPool.resolve, PendingPool.finish_of_find?_none h]

theorem poll_waiting (id : Id) (ticket : Nat) :
    e.poll (.waiting id ticket) =
      match (e.pool.slots.find? ticket).bind Slot.outcome? with
      | some outcome =>
        (some outcome, .ready none,
          { e with pool := { e.pool with slots := e.pool.slots.erase ticket } })
      | none => (none, .waiting id ticket, e) := by
  simp only [poll, PendingPool.poll]
  cases (e.pool.slots.find? ticket).bind Slot.outcome? <;> rfl

theorem poll_of_none {call : Call} (h : (e.poll call).1 = none) : (e.poll call).2.2 = e := by
  cases call with
  | waiting id ticket =>
    rw [poll_waiting] at h ⊢
    cases hs : (e.pool.slots.find? ticket).bind Slot.outcome? with
    | some outcome =>
      rw [hs] at h
      cases h
    | none => rfl
  | _ => cases h

/-- The endpoint once a request has its id and its entry, before it is posted. -/
def entered (e : Endpoint) (now : Nat) (method : String) (params : Option Value)
    (timeout : Option Duration) (resultType : String) : Endpoint :=
  { { e with ids := e.ids.take.2 }.note (.requesting e.ids.take.1 method) with
    pool := e.pool.enter { id := e.ids.take.1, method, params } resultType (deadline now timeout) }

/-- The ways of a request: a stopped endpoint makes none, an id that is in flight is refused, and a
request that was entered is posted, or taken back where posting fails. -/
theorem request_cases (e : Endpoint) (now : Nat) (method : String) (params : Option Value)
    (timeout : Option Duration) (resultType : String) :
    (e.isStopped = true ∧
      e.request now method params timeout resultType = (.fail .interrupted, e)) ∨
    (e.isStopped = false ∧ ∃ p, e.pool.find? e.ids.take.1 = some p ∧
      e.request now method params timeout resultType =
        (.fail (.internal s!"request id {p.id.text} is already in flight"),
          { e with ids := e.ids.take.2 }.note (.requesting e.ids.take.1 method))) ∨
    (e.isStopped = false ∧ e.pool.find? e.ids.take.1 = none ∧ ∃ transport,
      e.transport.post (.request { id := e.ids.take.1, method, params }) = .ok transport ∧
      e.request now method params timeout resultType =
        (.waiting e.ids.take.1 e.pool.nextTicket,
          { e.entered now method params timeout resultType with transport })) ∨
    (e.isStopped = false ∧ e.pool.find? e.ids.take.1 = none ∧ ∃ err,
      e.transport.post (.request { id := e.ids.take.1, method, params }) = .error err ∧
      e.request now method params timeout resultType =
        (.fail err, (e.entered now method params timeout resultType).leave e.pool.nextTicket
          e.ids.take.1)) := by
  by_cases hs : e.isStopped = true
  · exact Or.inl ⟨hs, by simp [request, hs]⟩
  have live : e.isStopped = false := by simpa using hs
  refine Or.inr ?_
  cases hf : e.pool.find? e.ids.take.1 with
  | some p => exact Or.inl ⟨live, p, rfl, by simp [request, live, PendingPool.add, hf]⟩
  | none =>
    refine Or.inr ?_
    cases hp : e.transport.post (.request { id := e.ids.take.1, method, params }) with
    | ok transport =>
      refine Or.inl ⟨live, rfl, transport, rfl, ?_⟩
      simp [request, live, PendingPool.add, hf, postRequest, note, hp, entered]
    | error err =>
      refine Or.inr ⟨live, rfl, err, rfl, ?_⟩
      simp [request, live, PendingPool.add, hf, postRequest, note, hp, entered]

end DuplexRpc.Endpoint

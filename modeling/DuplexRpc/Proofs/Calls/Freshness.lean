import DuplexRpc.Proofs.Network.Changes

/-! The ids of an endpoint whose ids count up. In all that can happen, wherever the counter starts, the
ids that are handed out are different until it has gone through all integers of 64 bits, so up to then
no request finds its id in flight. -/

namespace DuplexRpc

namespace Node

open Endpoint

variable {n n' : Node}

theorem Change.draws (change : n.Change n') : ∃ count, n.endpoint.Draws count n'.endpoint := by
  cases change with
  | work works => exact works.draws
  | tend | write | read => exact (Works.refl n.endpoint).draws
  | endReceiving => exact ⟨0, draws_zero rfl rfl (PendingPool.entries_failAll _ _)⟩
  | endSentinel | endWriting | endReading => exact ⟨0, draws_zero rfl rfl (List.Subset.refl _)⟩

theorem Changes.draws (changes : n.Changes n') : ∃ count, n.endpoint.Draws count n'.endpoint := by
  induction changes with
  | refl => exact (Works.refl n.endpoint).draws
  | tail _ change ih =>
    obtain ⟨count, before⟩ := ih
    obtain ⟨more, now⟩ := change.draws
    exact ⟨count + more, before.trans now⟩

end Node

namespace Endpoint

/-- An endpoint that is new has handed out no id, and no request waits at it. -/
structure Fresh (e : Endpoint) : Prop where
  notes : e.notes = []
  entries : e.pool.entries = []

variable {e e' : Endpoint} {count : Nat}

theorem Fresh.handedOut (fresh : e.Fresh) (draws : e.Draws count e') :
    e'.handedOut = e.ids.takeMany count := by
  have none : e.handedOut = [] := by simp [Endpoint.handedOut, fresh.notes]
  rw [draws.handedOut, none, List.nil_append]

theorem Fresh.mem_handedOut (fresh : e.Fresh) (draws : e.Draws count e') {p : PendingRequest}
    (mem : p ∈ e'.pool.entries) : p.id ∈ e'.handedOut := by
  rw [fresh.handedOut draws]
  refine (draws.entries p mem).resolve_left ?_
  simp [fresh.entries]

/-- The next id is not in flight, where all ids up to that one differ. -/
theorem Fresh.find?_take (fresh : e.Fresh) (draws : e.Draws count e')
    (distinct : e.ids.Distinct (count + 1)) : e'.pool.find? e'.ids.take.1 = none := by
  refine PendingPool.find?_eq_none.mpr fun p mem => ?_
  have made := fresh.mem_handedOut draws mem
  rw [fresh.handedOut draws] at made
  rw [draws.ids]
  exact distinct.next made

/-- An endpoint gives no two requests one id. -/
structure Numbers (e : Endpoint) (first : Int64) : Prop where
  next : e.ids = .sequence (first + .ofNat e.handedOut.length)
  counted : e.handedOut = (IdSource.sequence first).takeMany e.handedOut.length
  distinct : e.handedOut.Pairwise fun i j => i.same j = false
  waiting : ∀ p ∈ e.pool.entries, p.id ∈ e.handedOut
  /-- One more request with the next id is let into the pool. -/
  accepted : e.handedOut.length < 2 ^ 64 → ∀ r : Request, r.id = e.ids.take.1 →
    ∀ resultType deadline, e.pool.add r resultType deadline =
      .ok (e.pool.nextTicket, e.pool.enter r resultType deadline)

theorem Fresh.numbers (fresh : e.Fresh) (draws : e.Draws count e') {first : Int64}
    (counts : e.ids = .sequence first) (few : e'.handedOut.length ≤ 2 ^ 64) : e'.Numbers first := by
  have handed := fresh.handedOut draws
  have size : e'.handedOut.length = count := by
    rw [handed, IdSource.length_takeMany]
  have distinct {k : Nat} (le : k ≤ 2 ^ 64) : e.ids.Distinct k := by
    rw [counts]
    exact IdSource.distinct_sequence first le
  refine ⟨?next, ?counted, ?distinct, fun p mem => fresh.mem_handedOut draws mem, ?accepted⟩
  case next => rw [draws.ids, counts, IdSource.after_sequence, size]
  case counted => rw [size, handed, counts]
  case distinct =>
    rw [handed]
    exact distinct (size ▸ few)
  case accepted =>
    intro more r next resultType deadline
    have free : e'.pool.find? r.id = none := by
      rw [next]
      exact fresh.find?_take draws (distinct (by omega))
    rw [PendingPool.add, free]

end Endpoint

namespace Scene

theorem Starts.fresh {net : Network} (starts : Starts net) {side : Side} {n : Node}
    (here : net.node? side = some n) : n.endpoint.Fresh := by
  obtain ⟨s, ⟨transport, rfl⟩ | rfl | ⟨faults, rfl⟩⟩ := starts.node here <;> exact ⟨rfl, rfl⟩

/-- From whatever id an endpoint counts, up to 2 ^ 64 requests have ids of their own, whatever happens
in between. -/
theorem ids_differ {net : Network} (starts : Starts net) {side : Side} {n n' : Node}
    (here : net.node? side = some n)
    (counts : n.endpoint.ids = .sequence n.endpoint.config.initialId) (events : List Incident)
    (there : (run { net } events).net.node? side = some n')
    (few : n'.endpoint.handedOut.length ≤ 2 ^ 64) :
    n'.endpoint.Numbers n.endpoint.config.initialId := by
  obtain ⟨m, start, changes⟩ := Network.Nodewise.origin (changes_run { net } events) there
  obtain rfl := Option.some.inj (here.symm.trans start)
  obtain ⟨count, draws⟩ := changes.draws
  exact (starts.fresh here).numbers draws counts few

/-- Between two requests an endpoint counts from the greatest integer on to the least. -/
theorem ids_differ_around :
    let ask : Incident := .launch .a (.plain "m" none none "")
    let net := Network.lone { config := { initialId := Int64.maxValue } }
    ∃ n, (run { net } [ask, ask]).net.node? .a = some n ∧ n.endpoint.pool.size = 2 ∧
      n.endpoint.handedOut = [.ofInt64 Int64.maxValue, .ofInt64 Int64.minValue] ∧
      n.endpoint.Numbers Int64.maxValue := by
  intro ask net
  obtain ⟨n, there⟩ : ∃ n, (run { net } [ask, ask]).net.node? .a = some n := ⟨_, rfl⟩
  have handed : n.endpoint.handedOut = [.ofInt64 Int64.maxValue, .ofInt64 Int64.minValue] := by
    cases there
    rfl
  refine ⟨n, there, ?_, handed, ids_differ (.lone _) rfl rfl [ask, ask] there (by simp [handed])⟩
  cases there
  rfl

end Scene

end DuplexRpc

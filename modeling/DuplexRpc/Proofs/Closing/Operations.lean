import DuplexRpc.Proofs.Closing.Stance
import DuplexRpc.Proofs.Endpoint.Pool
import DuplexRpc.Session.Perform

/-! What each operation of an endpoint comes to in moves. -/

namespace DuplexRpc

/-- The ticket and the id of a call that waits. -/
def Call.key? : Call → Option (Nat × Id)
  | .waiting id ticket => some (ticket, id)
  | _ => none

namespace Stance

/-- The stance with what counts of an endpoint. -/
def at_ (v : Stance) (e : Endpoint) : Stance :=
  { v with
    codec := e.config.codec, pool := e.pool, stopped := e.isStopped, transport := e.transport }

variable (v : Stance) (e : Endpoint)

theorem moves_reply (r : Response) : (v.at_ e).Moves (v.at_ (e.reply r)) := by
  rw [Endpoint.reply]
  cases posted : e.transport.post (.response r) with
  | ok t => exact .single (.post posted)
  | error err => exact .refl

theorem moves_notify (method : String) (params : Option Value) :
    (v.at_ e).Moves (v.at_ (e.notify method params).2) := by
  simp only [Endpoint.notify]
  cases posted : (e.note (.notifying method)).transport.post (.notification { method, params }) with
  | ok t => exact .single (.post posted)
  | error err => exact .refl

theorem moves_announce (what : Launch) : (v.at_ e).Moves (v.at_ (e.announce what).2) := by
  cases what with
  | plain method params _ _ => exact v.moves_notify e method params
  | mapped _ service method args =>
    have resolved : v.at_ (e.resolve service method).2 = v.at_ e := rfl
    rw [Endpoint.announce]
    rcases same : e.resolve service method with ⟨err | m, e'⟩
    all_goals rw [same] at resolved
    · exact resolved ▸ .refl
    · rw [← resolved]
      simp only
      cases Endpoint.pack m args with
      | error err => exact .refl
      | ok params => exact v.moves_notify e' m.name params

/-! ### Calls -/

theorem moves_leave {ticket : Nat} {id : Id} {calls : List (Nat × Id)}
    (perm : v.calls.Perm ((ticket, id) :: calls)) :
    (v.at_ e).Moves ({ v with calls }.at_ (e.leave ticket id)) := by
  have same : { v with calls }.at_ (e.leave ticket id) =
      { v.at_ e with pool := (e.pool.leave ticket id).2, calls } := by
    rw [Endpoint.leave]
    split <;> rename_i found <;> rw [found] <;> rfl
  rw [same]
  exact .single (.leave perm)

/-- A call that is made is held from then on if it waits. -/
theorem moves_request (now : Nat) (method : String) (params : Option Value)
    (timeout : Option Duration) (resultType : String) {calls : List (Nat × Id)}
    (perm : calls.Perm
      ((e.request now method params timeout resultType).1.key?.toList ++ v.calls)) :
    (v.at_ e).Moves ({ v with calls }.at_ (e.request now method params timeout resultType).2) := by
  rcases e.request_cases now method params timeout resultType with
    ⟨-, same⟩ | ⟨-, p, -, same⟩ | ⟨live, free, transport, posted, same⟩ | ⟨live, free, err, -, same⟩
  · rw [same] at perm ⊢
    exact .single (.shuffle perm.symm)
  · rw [same] at perm ⊢
    exact .single (.shuffle perm.symm)
  · rw [same] at perm ⊢
    exact .tail (.single (.enter ⟨e.ids.take.1, method, params⟩ resultType
      (Endpoint.deadline now timeout) live free perm)) (.post posted)
  · rw [same] at perm ⊢
    have entered : (v.at_ e).Moves ({ v with calls := (e.pool.nextTicket, e.ids.take.1) :: v.calls }.at_
        (e.entered now method params timeout resultType)) :=
      .single (.enter ⟨e.ids.take.1, method, params⟩ resultType (Endpoint.deadline now timeout) live
        free (.refl _))
    refine entered.trans ?_
    exact moves_leave { v with calls := (e.pool.nextTicket, e.ids.take.1) :: v.calls } _
      (perm.symm.cons _)

theorem moves_launch (now : Nat) (what : Launch) {calls : List (Nat × Id)}
    (perm : calls.Perm ((e.launch now what).1.key?.toList ++ v.calls)) :
    (v.at_ e).Moves ({ v with calls }.at_ (e.launch now what).2) := by
  cases what with
  | plain method params timeout resultType =>
    exact v.moves_request e now method params timeout resultType perm
  | mapped client service method args =>
    have resolved : v.at_ (e.resolve service method).2 = v.at_ e := rfl
    rw [Endpoint.launch] at perm ⊢
    rcases same : e.resolve service method with ⟨err | m, e'⟩
    all_goals rw [same] at resolved perm
    all_goals rw [← resolved]
    · exact .single (.shuffle perm.symm)
    · simp only at perm ⊢
      by_cases kind : m.kind = .notification
      · rw [if_pos kind] at perm ⊢
        exact .single (.shuffle perm.symm)
      · rw [if_neg kind] at perm ⊢
        cases packed : Endpoint.pack m args with
        | error err =>
          rw [packed] at perm
          exact .single (.shuffle perm.symm)
        | ok params =>
          rw [packed] at perm
          exact v.moves_request e' now m.name params _ m.resultType perm

theorem moves_poll {id : Id} {ticket : Nat} {calls : List (Nat × Id)}
    (perm : v.calls.Perm ((ticket, id) :: calls)) {outcome : Outcome}
    (polled : (e.poll (.waiting id ticket)).1 = some outcome) :
    (v.at_ e).Moves ({ v with calls }.at_ (e.poll (.waiting id ticket)).2.2) := by
  rw [Endpoint.poll_waiting] at polled ⊢
  cases found : (e.pool.slots.find? ticket).bind Slot.outcome? with
  | none =>
    rw [found] at polled
    cases polled
  | some o => exact .single (.take perm)

theorem moves_expire (sound : e.pool.Sound) {t : Timer} (armed : t ∈ e.pool.timers) :
    (v.at_ e).Moves (v.at_ (e.expire t)) := by
  obtain ⟨p, mem, -, expired⟩ := sound.expire_eq armed
  have same : v.at_ (e.expire t) = { v.at_ e with pool := e.pool.close p (.filled (.error .timeout)) } := by
    rw [Endpoint.expire, expired]
    rfl
  rw [same]
  exact .single (.close mem (by simp))

/-! ### Messages that come in -/

theorem moves_resolveResponse (r : Response) :
    (v.at_ e).Moves (v.at_ (e.resolveResponse r).2) := by
  rw [Endpoint.resolveResponse, PendingPool.resolve]
  cases found : e.pool.find? r.id with
  | none =>
    rw [PendingPool.finish_of_find?_none found]
    exact .refl
  | some p =>
    rw [PendingPool.finish_of_find? found]
    exact .single (.close (PendingPool.find?_eq_some found).1 (by simp))

theorem moves_handle (m : Message) : (v.at_ e).Moves (v.at_ (e.handle m).1) := by
  cases m with
  | notification n =>
    rw [Endpoint.handle, Endpoint.dispatchNotification]
    split <;> exact .refl
  | request r =>
    have dispatched : (v.at_ e).Moves (v.at_ (e.dispatchRequest r).1) := by
      rw [Endpoint.dispatchRequest]
      split
      · exact v.moves_reply e _
      · split
        · exact v.moves_reply (e.note (.noHandler r.method)) _
        · exact .refl
    exact dispatched
  | response r =>
    have resolved := v.moves_resolveResponse e r
    rw [Endpoint.handle, Endpoint.takeResponse]
    rcases same : e.resolveResponse r with ⟨_ | _, e'⟩
    all_goals rw [same] at resolved
    · exact resolved
    · exact resolved

theorem moves_handleFrame (frame : Frame) : (v.at_ e).Moves (v.at_ (e.handleFrame frame).1) := by
  rw [Endpoint.handleFrame]
  split
  · exact .refl
  · split
    · exact v.moves_handle e _
    · rename_i err _
      split
      · exact v.moves_reply (e.note (.invalid err)) _
      · exact .refl

theorem moves_finish (origin : Origin) (ending : Ending) :
    (v.at_ e).Moves (v.at_ (e.finish origin ending)) := by
  cases origin with
  | request id method =>
    cases same : ending.toOutcome with
    | ok x =>
      simp only [Endpoint.finish, same]
      exact v.moves_reply e _
    | error err =>
      simp only [Endpoint.finish, same]
      exact v.moves_reply (e.note (.requestFailed id method err)) _
  | notification method =>
    cases same : ending.toOutcome with
    | ok x =>
      simp only [Endpoint.finish, same]
      exact .refl
    | error err =>
      simp only [Endpoint.finish, same]
      exact .refl

/-! ### What owners ask -/

theorem moves_stop : (v.at_ e).Moves (v.at_ e.stop) :=
  .tail (.single (.failAll .interrupted)) .stop

theorem moves_pop (id : Id) (outcome : Option Outcome) :
    (v.at_ e).Moves (v.at_ (Session.pop e id outcome).2) := by
  rw [Session.pop, PendingPool.pop]
  cases found : e.pool.find? id with
  | none => exact .refl
  | some p =>
    have mem := (PendingPool.find?_eq_some found).1
    cases outcome with
    | none =>
      have settled : Slot.abandoned ≠ .vacant := by simp
      exact .single (.close mem settled)
    | some outcome =>
      have settled : Slot.filled outcome ≠ .vacant := by simp
      exact .single (.close mem settled)

theorem moves_consult (what : Session.Ask) : (v.at_ e).Moves (v.at_ (Session.consult e what).2) := by
  cases what with
  | notify launch => exact v.moves_announce e launch
  | pop id outcome => exact v.moves_pop e id outcome
  | resolve message =>
    rw [Session.consult, Session.resolve]
    split
    · exact .refl
    · exact v.moves_resolveResponse e _
    · exact .refl
  | failAll err => exact .single (.failAll err)
  | stop => exact v.moves_stop e
  | failPosts failure => exact .single (.failPosts failure)
  | _ => exact .refl

end Stance

end DuplexRpc

import DuplexRpc.Proofs.Endpoint.Retorts
import DuplexRpc.Proofs.Enrolment
import DuplexRpc.Session.Perform

/-! The handlers that a message starts, and what an endpoint counts of them. It counts the
notifications that nobody listens to, and the runs of listeners that fail; nothing else that it does
changes these counts, or the handlers that are registered. -/

namespace DuplexRpc

/-- The runs that a notification starts: of all who listen to its method, in the order in which they
were registered. -/
def Notification.jobs (n : Notification) (roll : List Enrolment) : List Job :=
  (Enrolment.listeners n.method roll).map fun h =>
    ⟨.notification n.method, h { method := n.method } n.params⟩

namespace Message

/-- The runs that a message starts. A request with a method also runs the first handler that was
registered for it. -/
def jobs (roll : List Enrolment) : Message → List Job
  | .notification n => n.jobs roll
  | .request r =>
    r.asNotification.jobs roll ++
      if r.method.isEmpty then [] else ((Enrolment.handler? r.method roll).map r.job).toList
  | .response _ => []

/-- A notification that nobody listens to. -/
def isUnheard (roll : List Enrolment) : Message → Bool
  | .notification n => (Enrolment.listeners n.method roll).isEmpty
  | _ => false

end Message

def Ending.isError (ending : Ending) : Bool :=
  match ending.toOutcome with
  | .ok _ => false
  | .error _ => true

/-- A listener fails, by an error or by a panic. -/
def Origin.isFailure (origin : Origin) (ending : Ending) : Bool :=
  match origin with
  | .notification _ => ending.isError
  | .request _ _ => false

/-- The handlers of an endpoint, and what it counts of them. -/
structure Roster where
  requests : List (String × Handler)
  notifications : List (String × List Handler)
  unhandled : Nat
  failed : Nat

namespace Endpoint

def roster (e : Endpoint) : Roster where
  requests := e.registry.requests
  notifications := e.registry.notifications
  unhandled := e.counters.unhandledNotifications
  failed := e.counters.failedNotifications

variable {e e' : Endpoint} {roll : List Enrolment}

theorem Alike.roster (h : e.Alike e') : e'.roster = e.roster := by
  rw [Endpoint.roster, Endpoint.roster, h.registry, h.counters]

theorem keeps_of_roster (same : e'.roster = e.roster) (kept : e.registry.Keeps roll) :
    e'.registry.Keeps roll :=
  kept.of_same (congrArg Roster.requests same) (congrArg Roster.notifications same)

/-! ### Calls -/

theorem roster_leave (e : Endpoint) (ticket : Nat) (id : Id) : (e.leave ticket id).roster = e.roster := by
  rw [leave]
  split <;> rfl

theorem roster_drop (e : Endpoint) (call : Call) : (e.drop call).roster = e.roster := by
  cases call with
  | waiting id ticket => exact e.roster_leave ticket id
  | _ => rfl

theorem roster_poll (e : Endpoint) (call : Call) : (e.poll call).2.2.roster = e.roster := by
  unfold poll
  split <;> split <;> rfl

theorem roster_expire (e : Endpoint) (t : Timer) : (e.expire t).roster = e.roster := by
  rw [expire]
  split <;> rfl

theorem roster_notify (e : Endpoint) (method : String) (params : Option Value) :
    (e.notify method params).2.roster = e.roster := by
  unfold notify
  simp only
  split <;> rfl

theorem roster_request (e : Endpoint) (now : Nat) (method : String) (params : Option Value)
    (timeout : Option Duration) (resultType : String) :
    (e.request now method params timeout resultType).2.roster = e.roster := by
  unfold request
  split
  · rfl
  · simp only
    split
    · rfl
    · unfold postRequest
      split
      · rfl
      · exact roster_leave _ _ _

theorem roster_launch (e : Endpoint) (now : Nat) (what : Launch) :
    (e.launch now what).2.roster = e.roster := by
  cases what with
  | plain method params timeout resultType => exact e.roster_request ..
  | mapped client service method args =>
    have resolved : (e.resolve service method).2.roster = e.roster := rfl
    rw [launch]
    generalize e.resolve service method = x at resolved
    obtain ⟨err | m, e'⟩ := x
    · exact resolved
    · simp only
      split
      · exact resolved
      · split
        · exact resolved
        · exact (roster_request ..).trans resolved

theorem roster_announce (e : Endpoint) (what : Launch) : (e.announce what).2.roster = e.roster := by
  cases what with
  | plain method params _ _ => exact e.roster_notify ..
  | mapped _ service method args =>
    have resolved : (e.resolve service method).2.roster = e.roster := rfl
    rw [announce]
    generalize e.resolve service method = x at resolved
    obtain ⟨err | m, e'⟩ := x
    · exact resolved
    · simp only
      split
      · exact resolved
      · exact (roster_notify ..).trans resolved

/-! ### Messages -/

theorem roster_resolveResponse (e : Endpoint) (r : Response) :
    (e.resolveResponse r).2.roster = e.roster := by
  unfold resolveResponse
  split <;> rfl

theorem roster_takeResponse (e : Endpoint) (r : Response) : (e.takeResponse r).roster = e.roster := by
  have resolved := e.roster_resolveResponse r
  rw [takeResponse]
  generalize e.resolveResponse r = x at resolved
  obtain ⟨_ | _, e'⟩ := x <;> exact resolved

theorem notificationJobs_eq (kept : e.registry.Keeps roll) (n : Notification) :
    e.notificationJobs n = n.jobs roll := by
  rw [notificationJobs, kept.listeners, Notification.jobs]

/-- An endpoint is given a message, or nothing that it can read as one: this starts the handlers that
are registered by then, and tells what is counted. -/
def Takes (e : Endpoint) (m? : Option Message) (after : Endpoint × List Job) : Prop :=
  ∀ roll, e.registry.Keeps roll →
    after.2 = m?.elim [] (·.jobs roll) ∧
      after.1.roster =
        { e.roster with unhandled := e.roster.unhandled + (m?.any (·.isUnheard roll)).toNat }

theorem takes_handle (e : Endpoint) (m : Message) : e.Takes (some m) (e.handle m) := by
  intro roll kept
  rw [Option.elim_some, Option.any_some]
  cases m with
  | notification n =>
    rw [handle, dispatchNotification, notificationJobs_eq kept, Message.jobs, Message.isUnheard,
      Notification.jobs]
    cases Enrolment.listeners n.method roll <;> exact ⟨rfl, rfl⟩
  | request r =>
    rw [handle, Message.jobs, notificationJobs_eq kept, dispatchRequest, kept.handler]
    by_cases empty : r.method.isEmpty = true
    · rw [if_pos empty, if_pos empty]
      exact ⟨rfl, (alike_reply e _).roster⟩
    · rw [if_neg empty, if_neg empty]
      cases Enrolment.handler? r.method roll with
      | none => exact ⟨rfl, ((alike_note e _).trans (alike_reply _ _)).roster⟩
      | some h => exact ⟨rfl, rfl⟩
  | response r => exact ⟨rfl, e.roster_takeResponse r⟩

theorem takes_handleFrame (e : Endpoint) (frame : Frame) :
    e.Takes (e.config.codec.decode frame).toOption (e.handleFrame frame) := by
  cases read : e.config.codec.decode frame with
  | ok m =>
    rw [(retorts_of_decode read).2]
    exact e.takes_handle m
  | error err =>
    obtain ⟨alike, idle, -⟩ := retorts_of_invalid read
    exact fun _ _ => ⟨idle, alike.roster⟩

/-- Of all runs that end, the failures of listeners are counted. -/
theorem roster_finish (e : Endpoint) (origin : Origin) (ending : Ending) :
    (e.finish origin ending).roster =
      { e.roster with failed := e.roster.failed + (origin.isFailure ending).toNat } := by
  unfold finish Origin.isFailure Ending.isError
  cases origin with
  | request id method =>
    cases ending.toOutcome with
    | ok v => exact (alike_reply e _).roster
    | error err => exact ((alike_note e _).trans (alike_reply _ _)).roster
  | notification method => cases ending.toOutcome <;> rfl

end Endpoint

/-! ### What an endpoint is asked -/

namespace Session

theorem roster_pop (e : Endpoint) (id : Id) (outcome : Option Outcome) :
    (pop e id outcome).2.roster = e.roster := by
  unfold pop
  split
  · rfl
  · split <;> rfl

theorem roster_resolve (e : Endpoint) (message : Value) :
    (resolve e message).2.roster = e.roster := by
  unfold resolve
  split
  · rfl
  · exact e.roster_resolveResponse _
  · rfl

/-- Only registrations change the handlers. -/
theorem roster_consult (e : Endpoint) {what : Ask} (other : ∀ entry, what ≠ .register entry) :
    (consult e what).2.roster = e.roster := by
  cases what with
  | notify launch => exact e.roster_announce launch
  | register entry => exact absurd rfl (other entry)
  | pop id outcome => exact roster_pop e id outcome
  | resolve message => exact roster_resolve e message
  | _ => rfl

end Session

end DuplexRpc

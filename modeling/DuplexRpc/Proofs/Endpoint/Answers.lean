import DuplexRpc.Proofs.Endpoint.Offers

/-! What an endpoint answers, where its transport keeps every message: a request is answered where it
is refused or where its handler ends, and nothing else that an endpoint does posts a response. -/

namespace DuplexRpc

namespace Transport

/-- Messages are recorded, and posting never fails. -/
def Keeps (t : Transport) : Prop :=
  ∃ posted, t = .recorder posted none

theorem Keeps.isOpen {t : Transport} (h : t.Keeps) : t.IsOpen := by
  obtain ⟨posted, rfl⟩ := h
  rfl

/-- The responses among the messages that were posted. -/
def responses (t : Transport) : List Response :=
  t.posted.filterMap Message.response?

/-- More was posted, and the responses among it are `answers`. -/
def Grows (t : Transport) (answers : List Response) (t' : Transport) : Prop :=
  t'.Keeps ∧ t.posted <+: t'.posted ∧ t'.responses = t.responses ++ answers

variable {t t' t'' : Transport} {answers more : List Response}

theorem Grows.refl (h : t.Keeps) : t.Grows [] t :=
  ⟨h, List.prefix_rfl, (List.append_nil _).symm⟩

theorem Grows.trans (h : t.Grows answers t') (h' : t'.Grows more t'') :
    t.Grows (answers ++ more) t'' := by
  obtain ⟨-, grown, same⟩ := h
  obtain ⟨keeps, grown', same'⟩ := h'
  exact ⟨keeps, grown.trans grown', by rw [same', same, List.append_assoc]⟩

theorem grows_pushAll (h : t.Keeps) (ms : List Message) :
    t.Grows (ms.filterMap Message.response?) (t.pushAll ms) := by
  obtain ⟨posted, rfl⟩ := h
  rw [pushAll_recorder]
  refine ⟨⟨_, rfl⟩, List.prefix_append _ _, ?_⟩
  simp only [responses, Transport.posted, List.filterMap_append]

theorem mapBox_of_keeps (h : t.Keeps) (f : Mailbox → Mailbox) : t.mapBox f = t := by
  obtain ⟨posted, rfl⟩ := h
  rfl

end Transport

namespace Endpoint

/-- From an endpoint that keeps what it posts, the change posts the responses `answers` and no
others. -/
def Answers (e : Endpoint) (answers : List Response) (e' : Endpoint) : Prop :=
  e.transport.Keeps → e.transport.Grows answers e'.transport

variable {e e' e'' : Endpoint} {answers more : List Response}

theorem answers_of_transport (same : e'.transport = e.transport) : e.Answers [] e' := by
  intro keeps
  rw [same]
  exact .refl keeps

theorem Answers.trans (h : e.Answers answers e') (h' : e'.Answers more e'') :
    e.Answers (answers ++ more) e'' :=
  fun keeps => (h keeps).trans (h' (h keeps).1)

/-- A change that is the same for every open transport, which gets the messages `ms`. -/
theorem answers_of_via {f : Endpoint → Endpoint} {ms : List Message}
    (same : ∀ t : Transport, t.IsOpen → f (e.via t) = e'.via (t.pushAll ms)) :
    e.Answers (ms.filterMap Message.response?) (f e) := by
  intro keeps
  have here := same e.transport keeps.isOpen
  have self : e.via e.transport = e := rfl
  rw [self] at here
  rw [here]
  exact Transport.grows_pushAll keeps ms

/-! ### Calls -/

/-- A transport that keeps every message refuses none. -/
theorem answers_of_asks (asks : e.Asks e') : e.Answers [] e' := by
  obtain ⟨ms, none, same⟩ := asks
  intro keeps
  rw [same, Transport.offerAll_of_isOpen keeps.isOpen,
    ← List.filterMap_eq_nil_iff (f := Message.response?) |>.mpr none]
  exact Transport.grows_pushAll keeps ms

/-! ### Inbound messages -/

theorem answers_finish (e : Endpoint) (origin : Origin) (ending : Ending) :
    e.Answers ((origin.answer ending).filterMap Message.response?) (e.finish origin ending) := by
  obtain ⟨e', -, same⟩ := e.finish_via origin ending
  exact answers_of_via (f := (·.finish origin ending)) same

theorem handle_notification (e : Endpoint) (n : Notification) :
    e.Answers [] (e.handle (.notification n)).1 ∧
      (e.handle (.notification n)).2 = e.notificationJobs n := by
  obtain ⟨e', -, same⟩ := e.handle_notification_via n
  have here : e.handle (.notification n) = (e'.via e.transport, e.notificationJobs n) :=
    same e.transport
  rw [here]
  exact ⟨answers_of_transport rfl, rfl⟩

theorem handle_response (e : Endpoint) (r : Response) :
    e.Answers [] (e.handle (.response r)).1 ∧ (e.handle (.response r)).2 = [] := by
  have here : e.handle (.response r) = ((e.takeResponse r).via e.transport, []) :=
    e.handle_response_via r e.transport
  rw [here]
  exact ⟨answers_of_transport rfl, rfl⟩

theorem handle_refused (keeps : e.transport.Keeps) {r : Request} {err : RpcError}
    (h : r.refusal? e.registry.requests = some err) :
    e.Answers [⟨r.id, .error err⟩] (e.handle (.request r)).1 ∧
      (e.handle (.request r)).2 = e.notificationJobs r.asNotification := by
  obtain ⟨e', -, same⟩ := e.handle_refused_via h
  have answers := answers_of_via (e := e) (f := fun e => (e.handle (.request r)).1)
    fun t ht => congrArg Prod.fst (same t ht)
  exact ⟨answers, congrArg Prod.snd (same e.transport keeps.isOpen)⟩

theorem handle_started (e : Endpoint) {r : Request} (h : r.refusal? e.registry.requests = none) :
    ∃ handler, e.registry.requestHandler? r.method = some handler ∧
      e.handle (.request r) = (e, e.notificationJobs r.asNotification ++ [r.job handler]) := by
  obtain ⟨handler, found, same⟩ := e.handle_started_via h
  exact ⟨handler, found, same e.transport⟩

end Endpoint

end DuplexRpc

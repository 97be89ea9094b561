import DuplexRpc.Proofs.Endpoint.Formats

/-! What an endpoint offers to its transport, which may refuse it. A message that is refused leaves no
trace there: its frame is too long, or nobody takes frames any more. -/

namespace DuplexRpc

namespace Transport

/-- The frames that are put into a queue as a message is posted: the one that carries it, or none. -/
def accepts (t : Transport) (m : Message) : List Frame :=
  match t with
  | .recorder _ _ => []
  | .queue codec limit box =>
    if limit.any (· < (codec.encode m).length) || box.receiverGone then [] else [codec.encode m]

variable {t : Transport} {codec : Codec} {limit : Option Nat} {box : Mailbox}

theorem offer_queue (m : Message) : (queue codec limit box).offer m =
    .queue codec limit { box with frames := box.frames ++ (queue codec limit box).accepts m } := by
  rw [offer, post, accepts]
  cases long : limit.any (· < (codec.encode m).length) with
  | true =>
    simp only [if_true, Bool.true_or]
    rw [List.append_nil]
  | false =>
    rw [Mailbox.send?]
    cases gone : box.receiverGone with
    | true =>
      simp only [if_true, Bool.or_true, Bool.false_eq_true, if_false]
      rw [List.append_nil, ← gone]
    | false => simp only [Bool.or_false, Bool.false_eq_true, if_false]

/-- The frames of the messages that are not refused are put into the queue. -/
theorem offerAll_queue (ms : List Message) : (queue codec limit box).offerAll ms = .queue codec limit
    { box with frames := box.frames ++ ms.flatMap (queue codec limit box).accepts } := by
  induction ms generalizing box with
  | nil => rw [List.flatMap_nil, List.append_nil]; rfl
  | cons m ms ih =>
    rw [offerAll, List.foldl_cons, offer_queue]
    refine ih.trans ?_
    rw [List.flatMap_cons, ← List.append_assoc]
    rfl

theorem offerAll_append (t : Transport) (ms more : List Message) :
    t.offerAll (ms ++ more) = (t.offerAll ms).offerAll more :=
  List.foldl_append

theorem offer_of_ok {t' : Transport} {m : Message} (posted : t.post m = .ok t') : t.offer m = t' := by
  rw [offer, posted]

theorem offer_of_error {e : RpcError} {m : Message} (refused : t.post m = .error e) : t.offer m = t := by
  rw [offer, refused]

theorem isOpen_push (h : t.IsOpen) (m : Message) : (t.push m).IsOpen := by
  cases t <;> exact h

theorem offerAll_of_isOpen (h : t.IsOpen) (ms : List Message) : t.offerAll ms = t.pushAll ms := by
  induction ms generalizing t with
  | nil => rfl
  | cons m ms ih =>
    show (t.offer m).offerAll ms = (t.push m).pushAll ms
    rw [offer_of_ok (post_of_isOpen h m)]
    exact ih (isOpen_push h m)

end Transport

namespace Endpoint

variable {e e' e'' : Endpoint}

theorem transport_leave (ticket : Nat) (id : Id) : (e.leave ticket id).transport = e.transport := by
  unfold leave
  split <;> rfl

theorem transport_expire (t : Timer) : (e.expire t).transport = e.transport := by
  unfold expire
  split <;> rfl

theorem transport_drop (call : Call) : (e.drop call).transport = e.transport := by
  cases call with
  | waiting id ticket => exact transport_leave ticket id
  | _ => rfl

theorem transport_poll (call : Call) : (e.poll call).2.2.transport = e.transport := by
  cases call with
  | waiting id ticket =>
    rw [poll_waiting]
    split <;> rfl
  | _ => rfl

/-- The endpoint offered messages, none of them a response. -/
def Asks (e e' : Endpoint) : Prop :=
  ∃ ms : List Message, (∀ m ∈ ms, m.response? = none) ∧ e'.transport = e.transport.offerAll ms

theorem asks_of_transport (same : e'.transport = e.transport) : e.Asks e' :=
  ⟨[], fun _ hm => absurd hm List.not_mem_nil, same⟩

theorem Asks.trans (h : e.Asks e') (h' : e'.Asks e'') : e.Asks e'' := by
  obtain ⟨ms, none, same⟩ := h
  obtain ⟨more, none', same'⟩ := h'
  refine ⟨ms ++ more, fun m hm => ?_, by rw [same', same, Transport.offerAll_append]⟩
  rcases List.mem_append.mp hm with hm | hm
  · exact none m hm
  · exact none' m hm

theorem asks_request (e : Endpoint) (now : Nat) (method : String) (params : Option Value)
    (timeout : Option Duration) (resultType : String) :
    e.Asks (e.request now method params timeout resultType).2 := by
  have only : ∀ m ∈ [Message.request { id := e.ids.take.1, method, params }], m.response? = none := by
    intro m hm
    rw [List.mem_singleton.mp hm]
    rfl
  rcases e.request_cases now method params timeout resultType with
    ⟨-, same⟩ | ⟨-, p, -, same⟩ | ⟨-, -, transport, posted, same⟩ | ⟨-, -, err, refused, same⟩
  · rw [same]
    exact asks_of_transport rfl
  · rw [same]
    exact asks_of_transport rfl
  · rw [same]
    exact ⟨_, only, (Transport.offer_of_ok posted).symm⟩
  · rw [same]
    exact ⟨_, only, (transport_leave _ _).trans (Transport.offer_of_error refused).symm⟩

theorem asks_launch (e : Endpoint) (now : Nat) (what : Launch) : e.Asks (e.launch now what).2 := by
  cases what with
  | plain method params timeout resultType => exact e.asks_request now method params timeout resultType
  | mapped client service method args =>
    have resolved : e.Asks (e.resolve service method).2 := asks_of_transport rfl
    rw [launch]
    split
    · rename_i same
      rw [same] at resolved
      exact resolved
    · rename_i m e' same
      rw [same] at resolved
      split
      · exact resolved
      · split
        · exact resolved
        · exact resolved.trans (e'.asks_request now m.name _ _ _)

theorem asks_notify (e : Endpoint) (method : String) (params : Option Value) :
    e.Asks (e.notify method params).2 := by
  have only : ∀ m ∈ [Message.notification { method, params }], m.response? = none := by
    intro m hm
    rw [List.mem_singleton.mp hm]
    rfl
  refine ⟨_, only, ?_⟩
  rw [notify]
  split
  · rename_i posted
    exact (Transport.offer_of_ok posted).symm
  · rename_i refused
    exact (Transport.offer_of_error refused).symm

theorem asks_announce (e : Endpoint) (what : Launch) : e.Asks (e.announce what).2 := by
  cases what with
  | plain method params _ _ => exact e.asks_notify method params
  | mapped client service method args =>
    have resolved : e.Asks (e.resolve service method).2 := asks_of_transport rfl
    rw [announce]
    split
    · rename_i same
      rw [same] at resolved
      exact resolved
    · rename_i m e' same
      rw [same] at resolved
      split
      · exact resolved
      · exact resolved.trans (e'.asks_notify m.name _)

/-- The end of a handler is offered if it handled a request. -/
theorem transport_finish (e : Endpoint) (origin : Origin) (ending : Ending) :
    (e.finish origin ending).transport = e.transport.offerAll (origin.answer ending) := by
  cases origin with
  | request id method =>
    cases outcome : ending.toOutcome with
    | error err => simp only [finish, Origin.answer, outcome, transport_reply]; rfl
    | ok v => simp only [finish, Origin.answer, outcome, transport_reply]; rfl
  | notification method =>
    cases outcome : ending.toOutcome with
    | error err => simp only [finish, Origin.answer, outcome]; rfl
    | ok v => simp only [finish, Origin.answer, outcome]; rfl

/-- The messages that are offered at once in return for a frame. -/
def retorts (e : Endpoint) (frame : Frame) : List Message :=
  match e.config.codec.decodeValue frame with
  | .ok v => v.replies e.registry.requests
  | .error _ => []

theorem transport_handleFrame (e : Endpoint) (frame : Frame) :
    (e.handleFrame frame).1.transport = e.transport.offerAll (e.retorts frame) := by
  cases read : e.config.codec.decodeValue frame with
  | ok v =>
    rw [handleFrame_of_decodeValue read, transport_react, retorts, read]
  | error err =>
    rw [handleFrame, retorts, read]
    rfl

end Endpoint

end DuplexRpc

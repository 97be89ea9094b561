import DuplexRpc.Proofs.Closing.Incidents
import DuplexRpc.Proofs.Endpoint.Offers

/-! Calls that fail before they wait. Whatever stands in the way of a call, its caller gets the error
at once, and the requests that wait, their slots and their timers are as they were, also where the
request was entered before it could not be posted. -/

namespace DuplexRpc

/-- A message cannot be posted, and the error that says why. -/
inductive Transport.Refuses (m : Message) : Transport → RpcError → Prop
  | failing (posted : List Message) (err : RpcError) : Refuses m (.recorder posted (some err)) err
  | tooLong {codec : Codec} {limit : Option Nat} {box : Mailbox}
      (long : limit.any (· < (codec.encode m).length) = true) :
      Refuses m (.queue codec limit box)
        (.sendFailed s!"frame is too long: {(codec.encode m).length}")
  | closed {codec : Codec} {limit : Option Nat} {box : Mailbox}
      (fits : limit.any (· < (codec.encode m).length) = false) (gone : box.receiverGone = true) :
      Refuses m (.queue codec limit box) (.sendFailed "connection closed")

theorem Transport.post_eq_error_iff {t : Transport} {m : Message} {err : RpcError} :
    t.post m = .error err ↔ t.Refuses m err := by
  constructor
  · intro refused
    match t with
    | .recorder _ none => cases refused
    | .recorder _ (some _) =>
      cases refused
      exact .failing _ _
    | .queue codec limit box =>
      rw [post] at refused
      split at refused
      · rename_i long
        cases refused
        exact .tooLong long
      · rename_i fits
        rw [Mailbox.send?] at refused
        cases gone : box.receiverGone with
        | false => simp [gone] at refused
        | true =>
          simp only [gone, if_true] at refused
          cases refused
          exact .closed (Bool.eq_false_iff.mpr fits) gone
  · intro refuses
    cases refuses with
    | failing posted => rfl
    | tooLong long => simp [post, long]
    | closed fits gone => simp [post, fits, Mailbox.send?, gone]

namespace Endpoint

variable {e : Endpoint} {what : Launch} {err : RpcError} {method : String} {params : Option Value}

/-- A call comes to a request of a method with parameters: the method is named, or it is declared, is
no notification and takes the arguments. -/
inductive Prepares (e : Endpoint) : Launch → String → Option Value → Prop
  | plain (method : String) (params : Option Value) (timeout : Option Duration)
      (resultType : String) : Prepares e (.plain method params timeout resultType) method params
  | mapped {service : ServiceDescriptor} {method : MethodDescriptor} {m : MethodMapping}
      {args : List Value} {params : Option Value} (client : Client)
      (resolved : (e.resolve service method).1 = .ok m) (kind : m.kind ≠ .notification)
      (packed : m.pack args = .ok params) :
      Prepares e (.mapped client service method (.ok args)) m.name params

/-- What stands in the way of a call, and the error that says so. -/
inductive Refusal (e : Endpoint) : Launch → RpcError → Prop
  | mapping {client : Client} {service : ServiceDescriptor} {method : MethodDescriptor}
      {args : Except RpcError (List Value)} {err : RpcError}
      (invalid : (e.resolve service method).1 = .error err) :
      Refusal e (.mapped client service method args) err
  | notification {client : Client} {service : ServiceDescriptor} {method : MethodDescriptor}
      {args : Except RpcError (List Value)} {m : MethodMapping}
      (resolved : (e.resolve service method).1 = .ok m) (kind : m.kind = .notification) :
      Refusal e (.mapped client service method args)
        { kind := .invalidMapping, message := s!"{m.name} is a notification" }
  | argument {client : Client} {service : ServiceDescriptor} {method : MethodDescriptor}
      {m : MethodMapping} {err : RpcError} (resolved : (e.resolve service method).1 = .ok m)
      (kind : m.kind ≠ .notification) : Refusal e (.mapped client service method (.error err)) err
  | packing {client : Client} {service : ServiceDescriptor} {method : MethodDescriptor}
      {args : List Value} {m : MethodMapping} {err : RpcError}
      (resolved : (e.resolve service method).1 = .ok m) (kind : m.kind ≠ .notification)
      (unfit : m.pack args = .error err) : Refusal e (.mapped client service method (.ok args)) err
  | stopped {what : Launch} {method : String} {params : Option Value}
      (prepared : e.Prepares what method params) (stopped : e.isStopped = true) :
      Refusal e what .interrupted
  | inFlight {what : Launch} {method : String} {params : Option Value} {p : PendingRequest}
      (prepared : e.Prepares what method params) (live : e.isStopped = false)
      (found : e.pool.find? e.ids.take.1 = some p) :
      Refusal e what (.internal s!"request id {p.id.text} is already in flight")
  | unposted {what : Launch} {method : String} {params : Option Value} {err : RpcError}
      (prepared : e.Prepares what method params) (live : e.isStopped = false)
      (free : e.pool.find? e.ids.take.1 = none)
      (refused : e.transport.Refuses (.request { id := e.ids.take.1, method, params }) err) :
      Refusal e what err

/-- The requests that wait, their slots, their timers, and what is posted are the same. -/
structure Untouched (e e' : Endpoint) : Prop where
  entries : e'.pool.entries = e.pool.entries
  slots : e'.pool.slots = e.pool.slots
  timers : e'.pool.timers = e.pool.timers
  transport : e'.transport = e.transport

theorem untouched_of_pool {e' : Endpoint} {next : Nat}
    (pool : e'.pool = { e.pool with nextTicket := next }) (transport : e'.transport = e.transport) :
    e.Untouched e' :=
  ⟨by rw [pool], by rw [pool], by rw [pool], transport⟩

/-- A call that is prepared is made as a request. -/
theorem launch_of_prepares (prepared : e.Prepares what method params) (now : Nat) :
    ∃ registry timeout resultType,
      e.launch now what = { e with registry }.request now method params timeout resultType := by
  cases prepared with
  | plain _ _ timeout resultType => exact ⟨e.registry, timeout, resultType, rfl⟩
  | mapped client resolved kind packed =>
    rename_i service method m args
    refine ⟨(e.resolve service method).2.registry, m.timeout.or client.timeout, m.resultType, ?_⟩
    simp only [resolve] at resolved
    simp only [launch, resolve, resolved, if_neg kind, pack, packed]

theorem refusal_or_prepares (e : Endpoint) (what : Launch) :
    (∃ err, e.Refusal what err) ∨ ∃ method params, e.Prepares what method params := by
  cases what with
  | plain method params timeout resultType => exact .inr ⟨method, params, .plain _ _ _ _⟩
  | mapped client service method args =>
    cases resolved : (e.resolve service method).1 with
    | error err => exact .inl ⟨err, .mapping resolved⟩
    | ok m =>
      by_cases kind : m.kind = .notification
      · exact .inl ⟨_, .notification resolved kind⟩
      · cases args with
        | error err => exact .inl ⟨err, .argument resolved kind⟩
        | ok args =>
          cases packed : m.pack args with
          | error err => exact .inl ⟨err, .packing resolved kind packed⟩
          | ok params => exact .inr ⟨m.name, params, .mapped client resolved kind packed⟩

/-- A request that was entered and cannot be posted is taken back. -/
theorem pool_leave_entered (sound : e.pool.Sound) (free : e.pool.find? e.ids.take.1 = none)
    (now : Nat) (method : String) (params : Option Value) (timeout : Option Duration)
    (resultType : String) :
    ((e.entered now method params timeout resultType).leave e.pool.nextTicket e.ids.take.1).pool =
      { e.pool with nextTicket := e.pool.nextTicket + 1 } := by
  rw [pool_leave]
  exact PendingPool.leave_enter (r := { id := e.ids.take.1, method, params }) sound free _ _

/-- The caller of a call that is refused gets the error, and nothing else comes of the call. -/
theorem Refusal.launch_eq (refused : e.Refusal what err) (sound : e.pool.Sound) (now : Nat) :
    (e.launch now what).1 = .fail err ∧ e.Untouched (e.launch now what).2 := by
  cases refused with
  | mapping invalid =>
    rename_i client service method args
    simp only [resolve] at invalid
    simp only [launch, resolve, invalid]
    exact ⟨trivial, rfl, rfl, rfl, rfl⟩
  | notification resolved kind =>
    simp only [resolve] at resolved
    simp only [launch, resolve, resolved, if_pos kind]
    exact ⟨trivial, rfl, rfl, rfl, rfl⟩
  | argument resolved kind =>
    simp only [resolve] at resolved
    simp only [launch, resolve, resolved, if_neg kind, pack]
    exact ⟨trivial, rfl, rfl, rfl, rfl⟩
  | packing resolved kind unfit =>
    simp only [resolve] at resolved
    simp only [launch, resolve, resolved, if_neg kind, pack, unfit]
    exact ⟨trivial, rfl, rfl, rfl, rfl⟩
  | stopped prepared stopped =>
    obtain ⟨registry, timeout, resultType, same⟩ := launch_of_prepares prepared now
    have stopped : ({ e with registry } : Endpoint).isStopped = true := stopped
    rw [same, request, if_pos stopped]
    exact ⟨rfl, rfl, rfl, rfl, rfl⟩
  | inFlight prepared live found =>
    obtain ⟨registry, timeout, resultType, same⟩ := launch_of_prepares prepared now
    have live : ({ e with registry } : Endpoint).isStopped = false := live
    simp only [same, request, live, Bool.false_eq_true, if_false, note, PendingPool.add, found]
    exact ⟨trivial, rfl, rfl, rfl, rfl⟩
  | unposted prepared live free refused =>
    rename_i method params
    obtain ⟨registry, timeout, resultType, same⟩ := launch_of_prepares prepared now
    rcases request_cases { e with registry } now method params timeout resultType with
      ⟨stopped, -⟩ | ⟨-, p, found, -⟩ | ⟨-, -, transport, posted, -⟩ | ⟨-, -, other, failed, he⟩
    · cases live.symm.trans stopped
    · cases free.symm.trans found
    · cases (Transport.post_eq_error_iff.mpr refused).symm.trans posted
    · obtain rfl := Except.error.inj ((Transport.post_eq_error_iff.mpr refused).symm.trans failed)
      have pool := ({ e with registry } : Endpoint).pool_leave_entered sound free now method params
        timeout resultType
      rw [same, he]
      exact ⟨rfl, untouched_of_pool pool (transport_leave _ _)⟩

/-- A call that nothing stands in the way of waits. -/
theorem waiting_of_not_refused (free : ∀ err, ¬ e.Refusal what err) (now : Nat) :
    ∃ id ticket, (e.launch now what).1 = .waiting id ticket := by
  obtain ⟨err, refused⟩ | ⟨method, params, prepared⟩ := e.refusal_or_prepares what
  · exact absurd refused (free err)
  obtain ⟨registry, timeout, resultType, same⟩ := launch_of_prepares prepared now
  rcases request_cases { e with registry } now method params timeout resultType with
    ⟨stopped, -⟩ | ⟨live, p, found, -⟩ | ⟨-, -, transport, -, he⟩ | ⟨live, vacant, err, failed, -⟩
  · exact absurd (.stopped prepared stopped) (free _)
  · exact absurd (.inFlight prepared live found) (free _)
  · exact ⟨_, _, by rw [same, he]⟩
  · exact absurd (.unposted prepared live vacant (Transport.post_eq_error_iff.mp failed)) (free _)

end Endpoint

namespace Scene

/-- What comes of a call that fails with an error before it waits: the caller finds the error when it
looks, and holds nothing at any endpoint that could give up a request; what the endpoint has of other
requests is untouched. -/
structure Fails (s : Scene) (side : Side) (n : Node) (what : Launch) (err : RpcError) : Prop where
  ready : ∀ now, (n.endpoint.launch now what).1 = .fail err
  untouched : ∀ now, n.endpoint.Untouched (n.endpoint.launch now what).2
  taken : ∀ later : Endpoint, later.poll (.fail err) = (some (.error err), .ready none, later)
  dropped : ∀ later : Endpoint, later.drop (.fail err) = later ∧ later.drop (.ready none) = later
  held : (s.step (.launch side what)).held = s.held

theorem fails_of_refusal {s : Scene} {side : Side} {n : Node} {what : Launch} {err : RpcError}
    (h : s.Holds) (here : s.net.node? side = some n) (refused : n.endpoint.Refusal what err) :
    s.Fails side n what err := by
  have sound : n.endpoint.pool.Sound := (h side n here).pool
  have launched (now : Nat) := refused.launch_eq sound now
  refine ⟨fun now => (launched now).1, fun now => (launched now).2, fun _ => rfl,
    fun _ => ⟨rfl, rfl⟩, ?_⟩
  simp only [step]
  split
  · rename_i m found
    obtain rfl := Option.some.inj (here.symm.trans (holder?_eq_some found).1)
    have none : (n.endpoint.launch s.net.clock what).1.key? = none := by
      rw [(launched _).1]
      rfl
    simp only [none, hold]
    funext x
    split <;> rfl
  · rfl

/-- A call at an endpoint waits, or one thing stands in its way, and it fails with the error that says
so. -/
theorem call_waits_or_fails {net : Network} (starts : Starts net) (events : List Incident)
    {side : Side} {n : Node} (here : (run { net } events).net.node? side = some n) (what : Launch) :
    (∀ err, ¬ n.endpoint.Refusal what err) ∧
        (∀ now, ∃ id ticket, (n.endpoint.launch now what).1 = .waiting id ticket) ∨
      ∃ err, (∀ other, n.endpoint.Refusal what other ↔ other = err) ∧
        (run { net } events).Fails side n what err := by
  have h := ((holds_start starts).run events).1
  by_cases refused : ∃ err, n.endpoint.Refusal what err
  · obtain ⟨err, refused⟩ := refused
    have fails := fails_of_refusal h here refused
    refine .inr ⟨err, fun other => ⟨fun refused' => ?_, fun same => same ▸ refused⟩, fails⟩
    have fails' := fails_of_refusal h here refused'
    injection (fails'.ready 0).symm.trans (fails.ready 0) with same
    cases same
    rfl
  · have free := not_exists.mp refused
    exact .inl ⟨free, fun now => Endpoint.waiting_of_not_refused free now⟩

/-- A second request under an id that is in flight fails, and the first one waits on. -/
theorem repeated_id_fails :
    let id : Id := .str "a"
    let what : Launch := .plain "m" none none ""
    let s := run { net := .lone { ids := some (.ofList [id]) } } [.launch .a what]
    ∃ n, s.net.node? .a = some n ∧ n.endpoint.pool.size = 1 ∧
      s.Fails .a n what (.internal s!"request id {id.text} is already in flight") := by
  intro id what s
  obtain ⟨n, here⟩ : ∃ n, s.net.node? .a = some n := ⟨_, rfl⟩
  have waits : n.endpoint.pool.find? n.endpoint.ids.take.1 = some ⟨⟨id, "m", none⟩, "", none, 0⟩ := by
    cases here
    rfl
  have live : n.endpoint.isStopped = false := by
    cases here
    rfl
  rcases call_waits_or_fails (.lone _) [.launch .a what] here what with
    ⟨free, -⟩ | ⟨err, only, fails⟩
  · exact absurd (.inFlight (.plain _ _ _ _) live waits) (free _)
  · refine ⟨n, here, ?_, (only _).mp (.inFlight (.plain _ _ _ _) live waits) ▸ fails⟩
    cases here
    rfl

end Scene

end DuplexRpc

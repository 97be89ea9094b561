import DuplexRpc.Proofs.Closing.Parting
import DuplexRpc.Proofs.Closing.Release

/-! One of two endpoints is stopped by a holder that keeps it. Over a stream its loops close both
pipes, and the other endpoint ends with it. Over queues the frames that it has not handled are thrown
away, and who posts one more is told; but the loop of the other endpoint goes on for as long as
somebody holds the one that is stopped. -/

namespace DuplexRpc

namespace Stance

variable {v v' : Stance} {other own : Prop}

/-- A node goes on to post for as long as somebody holds its endpoint. -/
theorem posts_move (move : v.Move v') (held : v'.isHeld = true) :
    v.isHeld = true ∧ v'.transport.isOver = v.transport.isOver := by
  cases move with
  | post posted => exact ⟨held, Transport.isOver_post posted⟩
  | failPosts failure => exact ⟨held, Transport.isOver_failWith _ failure⟩
  | release => cases held
  | unload stream keeps => exact ⟨held, Transport.isOver_mapBox keeps _⟩
  | endWriting stream =>
    have keeps : ∀ box : Mailbox, box.close.senderGone = box.senderGone := fun _ => rfl
    exact ⟨held, Transport.isOver_mapBox keeps _⟩
  | _ => exact ⟨held, rfl⟩

theorem posts_moves (moves : v.Moves v') (held : v'.isHeld = true) :
    v.isHeld = true ∧ v'.transport.isOver = v.transport.isOver := by
  induction moves with
  | refl => exact ⟨held, rfl⟩
  | tail _ move ih =>
    obtain ⟨before, same⟩ := posts_move move held
    obtain ⟨first, earlier⟩ := ih before
    exact ⟨first, same.trans earlier⟩

theorem Turn.posts (turn : v.Turn other own v') (held : v'.isHeld = true) :
    v.isHeld = true ∧ v'.transport.isOver = v.transport.isOver := by
  cases turn with
  | moves keeps taken moves =>
    obtain ⟨before, same⟩ := posts_moves moves held
    exact ⟨before, same.trans (Transport.isOver_mapBox keeps _)⟩
  | shut keeps taken ended => exact ⟨held, Transport.isOver_mapBox keeps _⟩

end Stance

theorem Transport.isOver_of_carried {t : Transport} {codec : Codec} (carried : t.codec? = some codec) :
    t.isOver = t.box.senderGone := by
  cases t with
  | recorder _ _ => cases carried
  | queue _ _ _ => rfl

namespace Endpoint

variable {e : Endpoint}

/-- What is posted to a connection that is closed is refused, be it too long or not. -/
theorem post_of_closed {codec : Codec} (carried : e.transport.codec? = some codec)
    (closed : e.transport.box.receiverGone = true) (m : Message) :
    ∃ text, e.transport.post m = .error (.sendFailed text) := by
  cases transport : e.transport with
  | recorder _ _ =>
    rw [transport] at carried
    cases carried
  | queue codec limit box =>
    rw [transport] at closed
    have closed : box.receiverGone = true := closed
    rw [Transport.post]
    split
    · exact ⟨_, rfl⟩
    · rw [Mailbox.send?, if_pos closed]
      exact ⟨_, rfl⟩

/-- A request over a connection that is closed fails at once. -/
theorem request_of_closed (live : e.isStopped = false) {codec : Codec}
    (carried : e.transport.codec? = some codec) (closed : e.transport.box.receiverGone = true)
    (free : e.pool.find? e.ids.take.1 = none) (now : Nat) (method : String) (params : Option Value)
    (timeout : Option Duration) (resultType : String) :
    ∃ text, (e.request now method params timeout resultType).1 = .fail (.sendFailed text) := by
  obtain ⟨text, refused⟩ :=
    post_of_closed carried closed (.request { id := e.ids.take.1, method, params })
  refine ⟨text, ?_⟩
  simp only [request, live, PendingPool.add, note, free, Bool.false_eq_true, if_false, postRequest,
    refused]

end Endpoint

namespace Scene

variable {s : Scene} {side : Side} {n m : Node} {ev : Incident}

/-! ### What is thrown away -/

/-- The frames that are left in the queue of a side are lost as its loop ends. -/
def Loses (s : Scene) (side : Side) (ev : Incident) : Prop :=
  s.puts side ev = [] ∧ s.handles? side ev = none ∧ ((s.step ev).net.inbox side).frames = [] ∧
    ∀ n, (s.step ev).net.node? side = some n → n.receiving = false

/-- The loop ends that handles frames for a side. -/
theorem Fed.shut (h : s.Fed side) {net : Network} (queues : net.link.medium = .queues)
    (here : net.node? side = some n) (there : net.node? side.other = some m) {codec : Codec}
    (carried : m.endpoint.transport.codec? = some codec) (untaken : s.handles? side ev = none)
    (next : (s.step ev).net = net.endReceiving side) :
    (s.step ev).Fed side ∧ s.Loses side ev := by
  obtain ⟨holds, queues', self, other⟩ := h.later ev
  have inbox : (s.step ev).net.inbox side = (net.inbox side).close := by
    rw [next, Network.inbox_endReceiving queues there carried]
  have empty : ((s.step ev).net.inbox side).frames = [] := by
    rw [inbox]
    rfl
  refine ⟨⟨holds, queues', self, other, fun _ _ _ => ⟨empty, by rw [inbox]; rfl⟩⟩, ?_, untaken, empty,
    fun n' after => ?_⟩
  · rw [puts, empty, List.drop_nil]
  · obtain ⟨n'', after', -, -, ended, -⟩ := node?_endReceiving here
    rw [next] at after
    obtain rfl := Option.some.inj (after.symm.trans after')
    exact ended

/-- The loop of a side goes on without a frame that it handles: nothing happens, or it ends. -/
theorem Fed.unhandled (h : s.Fed side) (loop : ev.IsLoop side) (untaken : s.handles? side ev = none) :
    (s.step ev).net = s.net ∨ (s.step ev).Fed side ∧ s.Loses side ev := by
  obtain ⟨n, here⟩ := h.self
  obtain ⟨m, there⟩ := h.other
  have noted {net : Network} (queues : net.link.medium = .queues) {n' m' : Node}
      (here : net.node? side = some n') (there : net.node? side.other = some m')
      (carried : m'.endpoint.transport.codec? = some m.endpoint.config.codec)
      (next : (s.step ev).net = (net.mapNode side (·.note .receivingEnded)).endReceiving side) :
      (s.step ev).Fed side ∧ s.Loses side ev :=
    h.shut ((Network.medium_mapNode _).trans queues)
      (by rw [Network.node?_mapNode_self, here]; rfl)
      ((Network.node?_mapNode_other _).trans there) carried untaken next
  obtain ⟨heeds, rfl⟩ | rfl := ev.loop_cases loop
  · cases running : n.receiving with
    | false =>
      refine .inl ?_
      simp only [Scene.step, Network.step, here, running, Bool.false_eq_true, if_false]
    | true =>
      have next := step_receiving here running heeds
      cases heeded : n.isStopped && heeds with
      | true =>
        rw [Network.stepReceiving, heeded, if_pos rfl] at next
        exact .inr (h.shut h.queues here there (h.carried there) untaken next)
      | false =>
        rw [Network.stepReceiving, heeded] at next
        cases frames : (s.net.inbox side).frames with
        | nil =>
          simp only [frames, Bool.false_eq_true, if_false] at next
          split at next
          · exact .inr (noted h.queues here there (h.carried there) next)
          · exact .inl next
        | cons frame rest =>
          cases holding : n.isHeld with
          | true => simp [handles?, here, running, holding, heeded, frames, Option.filter] at untaken
          | false =>
            -- nobody is left to handle the frame that was taken
            simp only [frames, holding, Bool.false_eq_true, if_false] at next
            rw [Network.mapInbox_eq h.queues] at next
            have kept (f : Node → Node) : (s.net.mapNode side.other f).node? side = some n := by
              rw [← here]
              cases side <;> rfl
            have posts (f : Node → Node) :
                (s.net.mapNode side.other f).node? side.other = some (f m) := by
              rw [Network.node?_mapNode_self, there]
              rfl
            exact .inr (noted ((Network.medium_mapNode _).trans h.queues) (kept _) (posts _)
              ((Transport.codec?_mapBox _ _).trans (h.carried there)) next)
  · cases running : n.receiving with
    | false =>
      refine .inl ?_
      simp only [Scene.step, Network.cancel, here, running, Bool.false_eq_true, if_false]
    | true =>
      refine .inr (h.shut h.queues here there (h.carried there) untaken ?_)
      simp only [Scene.step, Network.cancel, here, running, if_true]

/-- Whatever happens to two sides that are joined by queues. -/
theorem Fed.next (h : s.Fed side) (ev : Incident) :
    (s.step ev).Fed side ∧ (s.Accounts side ev ∨ s.Loses side ev) := by
  by_cases loop : ev.IsLoop side
  · cases taken : s.handles? side ev with
    | some x =>
      obtain ⟨h', accounts⟩ := h.handle taken
      exact ⟨h', .inl accounts⟩
    | none =>
      rcases h.unhandled loop taken with stays | ⟨h', loses⟩
      · obtain ⟨holds, queues, self, other⟩ := h.later ev
        refine ⟨⟨holds, queues, self, other, stays ▸ h.closed⟩, .inl ?_⟩
        rw [Accounts, puts, taken, stays, List.drop_length, List.append_nil]
        rfl
      · exact ⟨h', .inr loses⟩
  · obtain ⟨h', accounts⟩ := h.idle loop
    exact ⟨h', .inl accounts⟩

theorem Holds.handled_of_ended (h : s.Holds) (here : s.net.node? side = some n)
    (ended : n.receiving = false) (events : List Incident) : s.handled side events = [] := by
  induction events generalizing s n with
  | nil => rfl
  | cons ev events ih =>
    obtain ⟨h', later⟩ := h.step ev
    obtain ⟨n', there, later⟩ := Network.Nodewise.node later here
    have ended' : n'.receiving = false := by
      cases running : n'.receiving with
      | false => rfl
      | true => exact absurd (later.receiving running) (Bool.eq_false_iff.mp ended)
    have none : s.handles? side ev = Option.none := by
      refine Option.eq_none_iff_forall_ne_some.mpr fun x taken => ?_
      obtain ⟨m, -, there, -, running, -⟩ := step_of_handles taken
      obtain rfl := Option.some.inj (here.symm.trans there)
      rw [ended] at running
      cases running
    rw [handled, none, ih h' there ended']
    rfl

/-- The frames that come in are handled in their order, up to those that are still there or that were
thrown away when the loop ended. -/
theorem Fed.account (h : s.Fed side) (events : List Incident) :
    (s.run events).Fed side ∧ ∃ lost, (s.net.inbox side).frames ++ s.posted side events =
      (s.handled side events).map Prod.fst ++ lost ++ ((s.run events).net.inbox side).frames := by
  -- nothing is lost before the loop ends, and nothing is handled after it
  induction events generalizing s with
  | nil => exact ⟨h, [], List.append_nil _⟩
  | cons ev events ih =>
    obtain ⟨h', step⟩ := h.next ev
    obtain ⟨h'', lost, rest⟩ := ih h'
    refine ⟨h'', ?_⟩
    rcases step with accounts | ⟨nothing, untaken, empty, ended⟩
    · refine ⟨lost, ?_⟩
      calc (s.net.inbox side).frames ++ s.posted side (ev :: events)
          = ((s.net.inbox side).frames ++ s.puts side ev) ++ (s.step ev).posted side events :=
            (List.append_assoc ..).symm
        _ = (s.handles? side ev).toList.map Prod.fst ++
              (((s.step ev).net.inbox side).frames ++ (s.step ev).posted side events) := by
            rw [accounts, List.append_assoc]
        _ = (s.handled side (ev :: events)).map Prod.fst ++ lost ++
              (((s.step ev).run events).net.inbox side).frames := by
            rw [rest, handled, List.map_append]
            simp only [List.append_assoc]
    · -- nothing is handled from now on
      obtain ⟨n', there⟩ := h'.self
      have silent := h'.holds.handled_of_ended there (ended n' there) events
      rw [empty, silent] at rest
      refine ⟨(s.net.inbox side).frames ++ lost, ?_⟩
      rw [posted, handled, nothing, untaken, silent]
      show _ ++ (s.step ev).posted side events = _
      rw [show (s.step ev).posted side events = lost ++ _ from rest]
      simp only [Option.toList, List.append_nil, List.map_nil, List.nil_append, List.append_assoc]
      rfl

/-! ### Who is not told -/

theorem posts_step (h : s.Holds) (here : s.net.node? side = some n) {n' : Node}
    (there : (s.step ev).net.node? side = some n') (held : n'.isHeld = true) :
    n'.endpoint.transport.isOver = n.endpoint.transport.isOver := by
  obtain ⟨n₀, here₀, turn⟩ := Network.Nodewise.origin (turns_step h ev) there
  obtain rfl := Option.some.inj (here.symm.trans here₀)
  exact (turn.posts held).2

/-- The loop of a side goes on for as long as nothing disturbs it and somebody holds the endpoint of
the other side, be that one stopped or not. -/
theorem Fed.running {events : List Incident} (h : s.Fed side) (calm : s.Undisturbed side events)
    (here : s.net.node? side = some n) (running : n.receiving = true)
    (there : s.net.node? side.other = some m) (open_ : m.endpoint.transport.isOver = false)
    (held : ((s.run events).net.node? side.other).any Node.isHeld = true) :
    ((s.run events).net.node? side).any (·.receiving) = true := by
  induction events generalizing s n m with
  | nil =>
    show (s.net.node? side).any (·.receiving) = true
    rw [here]
    exact running
  | cons ev events ih =>
    obtain ⟨kept, now, calm⟩ := calm
    obtain ⟨h', -⟩ := h.step kept now
    obtain ⟨n', here'⟩ := h'.self
    obtain ⟨m', there'⟩ := h'.other
    -- who holds the other endpoint in the end holds it now
    have held' : m'.isHeld = true := by
      cases gone : m'.isHeld with
      | true => rfl
      | false =>
        obtain ⟨m'', after, left⟩ := h'.holds.left_run there' gone events
        have held : ((s.step ev).run events).net.node? side.other |>.any Node.isHeld := held
        rw [after] at held
        exact absurd held (Bool.eq_false_iff.mp left.gone)
    have open' : m'.endpoint.transport.isOver = false :=
      (posts_step h.holds there there' held').trans open_
    refine ih h' calm here' ?_ there' open' held
    by_cases loop : ev.IsLoop side
    · cases taken : s.handles? side ev with
      | some x =>
        obtain ⟨n'', after, same, -⟩ := Network.Nodewise.node (nodewise_of_handles h.queues taken) here
        obtain rfl := Option.some.inj (here'.symm.trans after)
        exact same.trans running
      | none =>
        obtain ⟨heeds, rfl⟩ | rfl := ev.loop_cases loop
        · have more : (s.net.inbox side).senderGone = false := by
            rw [Network.inbox_eq h.queues there, ← Transport.isOver_of_carried (h.carried there)]
            exact open_
          obtain ⟨-, next⟩ :=
            h.holds.step_waiting here running (live_of_any now here running) taken
          rw [more] at next
          rw [next] at here'
          obtain rfl := Option.some.inj (here.symm.trans here')
          exact running
        · simp [Incident.isCancel] at kept
    · obtain ⟨n₀, here₀, turn⟩ := Network.Nodewise.origin (turns_step h.holds ev) here'
      obtain rfl := Option.some.inj (here.symm.trans here₀)
      exact (turn.receiving loop).trans running

theorem moment_of_ended {events : List Incident}
    (running : (s.net.node? side).any (·.receiving) = true)
    (ended : ((s.run events).net.node? side).any (·.receiving) = false) :
    ∃ before ev after, events = before ++ ev :: after ∧
      ((s.run before).net.node? side).any (·.receiving) = true ∧
      (((s.run before).step ev).net.node? side).any (·.receiving) = false := by
  induction events generalizing s with
  | nil => exact absurd running (Bool.eq_false_iff.mp ended)
  | cons ev events ih =>
    cases next : ((s.step ev).net.node? side).any (·.receiving) with
    | false => exact ⟨[], ev, events, rfl, running, next⟩
    | true =>
      obtain ⟨before, ev', after, rfl, first, last⟩ := ih next ended
      exact ⟨ev :: before, ev', after, rfl, first, last⟩

/-- Over queues nobody has let go of an endpoint that was just built. -/
theorem Joined.posts {net : Network} (joined : Joined net) (queues : net.link.medium = .queues)
    (here : net.node? side = some n) : n.endpoint.transport.isOver = false := by
  cases joined with
  | connect joined =>
    rw [Network.connect] at joined
    split at joined
    · obtain rfl := Except.ok.inj joined
      cases side <;> obtain rfl := Option.some.inj here <;> rfl
    · cases joined
  | connectStream a b capacity => cases queues

/-- Where one of two joined endpoints was stopped and nothing can go on: over a stream the other one
is over, and who holds a call there has the outcome that was there when its loop ended, or was
interrupted. Over queues the frames that were not handled are lost for good and further requests fail
at once, but the other one is over only if nobody holds the endpoint that is stopped, unless it was
disturbed itself. Whatever happens elsewhere, who waits there goes on to wait. -/
theorem stopped_peer {net : Network} (joined : Joined net) (events : List Incident) (side : Side) :
    let s : Scene := { net }
    let u := s.run events
    (u.net.node? side).any Node.isStopped = true → u.net.able = [] →
      (net.link.medium = .stream → u.IsOver side.other ∧ ∃ before ev after,
        events = before ++ ev :: after ∧ (s.run before).Ends ev side.other ∧
        ∀ c ∈ u.calls side.other, c ∈ (s.run before).calls side.other ∧ u.outcome? side.other c =
          some (((s.run before).outcome? side.other c).getD (.error .interrupted))) ∧
      (net.link.medium = .queues →
        (∃ lost, s.posted side events = (s.handled side events).map Prod.fst ++ lost) ∧
        (∀ later, u.handled side later = []) ∧
        (∀ m, u.net.node? side.other = some m → m.isStopped = false →
          m.endpoint.pool.find? m.endpoint.ids.take.1 = none →
          ∀ now method params timeout resultType, ∃ text,
            (m.endpoint.request now method params timeout resultType).1 =
              .fail (.sendFailed text)) ∧
        (s.Undisturbed side.other events →
          (u.IsOver side.other ↔ (u.net.node? side).any Node.isHeld = false))) ∧
      ∀ later, (∀ ev ∈ later, ev.side? ≠ some side.other) → ∀ c,
        (u.run later).outcome? side.other c = u.outcome? side.other c := by
  intro s u stopped idle
  have h : s.Holds := holds_start joined.starts
  obtain ⟨h', later⟩ : u.Holds ∧ s.Later u := h.run events
  obtain ⟨medium, n, m, here, there, running⟩ := joined.nodes side
  obtain ⟨n', here', laterN⟩ := Network.Nodewise.node later here
  obtain ⟨m', there', laterM⟩ := Network.Nodewise.node later there
  have kept : u.net.link.medium = net.link.medium := laterN.medium
  have linked : u.net.link.medium ≠ .none := fun none => medium (kept.symm.trans none)
  have stopped : n'.isStopped = true := by
    rw [here'] at stopped
    exact stopped
  have past (ended : m'.receiving = false) : u.IsOver side.other :=
    h'.isOver there' ((h' side.other m' there').ended linked ended)
  refine ⟨fun stream => ?_, fun queues => ?_, fun later elsewhere c => ?_⟩
  · have ended : m'.receiving = false :=
      h'.receiving_of_stopped here' there' (kept.trans stream) stopped idle
    refine ⟨past ended, ?_⟩
    have first : (s.net.node? side.other).any (·.receiving) = true := by
      rw [there]
      exact running
    have last : (u.net.node? side.other).any (·.receiving) = false := by
      rw [there']
      exact ended
    obtain ⟨before, ev, after, rfl, -, last⟩ := moment_of_ended first last
    obtain ⟨earlier, laterB⟩ := h.run before
    obtain ⟨m₁, there₁, laterM₁⟩ := Network.Nodewise.node laterB there
    obtain ⟨m₂, there₂, laterM₂⟩ := Network.Nodewise.node (earlier.step ev).2 there₁
    have ends : (s.run before).Ends ev side.other := by
      refine .loop there₂ (fun none => medium ?_) (by rwa [there₂] at last)
      exact (laterM₁.medium.symm.trans laterM₂.medium.symm).trans none
    refine ⟨before, ev, after, rfl, ends, fun c hc => ?_⟩
    rw [show u = ((s.run before).step ev).run after from run_append s before (ev :: after)] at hc ⊢
    exact earlier.outcomes_of_ends ends after hc
  · have queues' : u.net.link.medium = .queues := kept.trans queues
    have ended : n'.receiving = false := Network.receiving_of_stopped idle here' stopped
    obtain ⟨fed, lost, accounts⟩ := (joined.fed queues side).account events
    obtain ⟨empty, closed⟩ := fed.closed n' here' ended
    refine ⟨⟨lost, ?_⟩, fun later => h'.handled_of_ended here' ended later, ?_, fun calm => ⟨?_, ?_⟩⟩
    · rw [(joined.fresh queues side).1, empty, List.nil_append, List.append_nil] at accounts
      exact accounts
    · intro m'' there'' live free now method params timeout resultType
      obtain rfl := Option.some.inj (there'.symm.trans there'')
      rw [Network.inbox_eq queues' there'] at closed
      exact Endpoint.request_of_closed live (fed.carried there') closed free now method params timeout
        resultType
    · rintro ⟨m'', there'', stopped', -⟩
      -- an endpoint that is stopped has no loop when nothing can go on
      have silent : (u.net.node? side.other).any (·.receiving) = false := by
        rw [there'']
        exact Network.receiving_of_stopped idle there'' stopped'
      refine Bool.eq_false_iff.mpr fun held => ?_
      rw [← side.other_other] at held
      have goesOn := (joined.fed queues side.other).running calm there running
        (by rw [side.other_other]; exact here) (joined.posts queues here) held
      exact absurd goesOn (Bool.eq_false_iff.mp silent)
    · intro gone
      refine past (h'.receiving_of_parted here' there' linked ?_ idle)
      rw [here'] at gone
      exact gone
  · obtain ⟨m'', there'', bystands, -⟩ := bystands_run elsewhere there'
    rw [outcome?_eq there'', outcome?_eq there']
    exact congrArg (·.outcome? c.1) bystands.pool

/-- The second side asks the first one, which is stopped before it handles anything. -/
def hasty : List Incident :=
  [.launch .b (.plain "mirror" none none "Value"), .ask .a .stop, .go (.sentinel .a),
    .go (.receiving .a true)]

/-- The loops of a stream go on as well. -/
def parting : List Incident :=
  hasty ++ [.go (.writing .a true), .go (.reading .a true), .go (.reading .b true),
    .go (.receiving .b true), .go (.writing .b true), .go (.sentinel .b)]

/-- The same request is made over a stream and over queues. -/
theorem stopped_peer_asked :
    let u := run { net := .connectStream Course.mirror Course.mirror 64 } parting
    let u' := (twins Course.mirror).run hasty
    (u.net.node? .a).any Node.isStopped = true ∧ u.net.able = [] ∧ u.IsOver .b ∧
      (0, .ofInt64 0) ∈ u.calls .b ∧ (u.outcome? .b (0, .ofInt64 0)).isSome = true ∧
      (u'.net.node? .a).any Node.isStopped = true ∧ u'.net.able = [] ∧
      (twins Course.mirror).Undisturbed .b hasty ∧ ¬ u'.IsOver .b ∧
      (∀ later, u'.handled .a later = []) ∧
      (u'.step (.ask .a .letGo)).outcome? .b (0, .ofInt64 0) = u'.outcome? .b (0, .ofInt64 0) := by
  intro u u'
  have joined : Joined (twins Course.mirror).net :=
    .connect (a := Course.mirror) (b := Course.mirror) rfl
  have stopped : (u.net.node? .a).any Node.isStopped = true := by decide +kernel
  have idle : u.net.able = [] := by decide +kernel
  have mem : (0, .ofInt64 0) ∈ u.calls .b := by decide +kernel
  have stopped' : (u'.net.node? .a).any Node.isStopped = true := by decide +kernel
  have idle' : u'.net.able = [] := by decide +kernel
  have held : (u'.net.node? .a).any Node.isHeld = true := by decide +kernel
  have calm : (twins Course.mirror).Undisturbed .b hasty := by decide +kernel
  obtain ⟨overStream, -⟩ :=
    stopped_peer (.connectStream Course.mirror Course.mirror 64) parting .a stopped idle
  obtain ⟨past, before, ev, after, -, -, outcomes⟩ := overStream rfl
  obtain ⟨-, overQueues, elsewhere⟩ := stopped_peer joined hasty .a stopped' idle'
  obtain ⟨-, silent, -, iff_⟩ := overQueues rfl
  have some_ : (u.outcome? .b (0, .ofInt64 0)).isSome = true :=
    Option.isSome_iff_exists.mpr ⟨_, (outcomes _ mem).2⟩
  refine ⟨stopped, idle, past, mem, some_, stopped', idle', calm, fun past => ?_, silent, ?_⟩
  · exact Bool.eq_false_iff.mp ((iff_ calm).mp past) held
  · exact elsewhere [.ask .a .letGo] (by simp [Incident.side?, Side.other]) (0, .ofInt64 0)

/-- Over queues a request is never handled, nothing can go on, and who made it waits. -/
theorem stopped_peer_waited_for :
    let s := twins Course.mirror
    let u := s.run hasty
    Joined s.net ∧ s.net.link.medium = .queues ∧
      (u.net.node? .a).any (fun n => n.isStopped && n.isHeld) = true ∧ u.net.able = [] ∧
      s.posted .a hasty =
        [Codec.json.encode (.request { id := .ofInt64 0, method := "mirror", params := none })] ∧
      s.handled .a hasty = [] ∧ (u.net.node? .a).any (·.receiving) = false ∧
      u.calls .b = [(0, .ofInt64 0)] ∧ u.outcome? .b (0, .ofInt64 0) = none := by
  intro s u
  have unhandled : (s.handled .a hasty).length = 0 := by decide +kernel
  have waits : (u.outcome? .b (0, .ofInt64 0)).isNone = true := by decide +kernel
  exact ⟨.connect (a := Course.mirror) (b := Course.mirror) rfl, rfl, by decide +kernel,
    by decide +kernel, by decide +kernel, List.length_eq_zero_iff.mp unhandled, by decide +kernel,
    by decide +kernel, Option.isNone_iff_eq_none.mp waits⟩

end Scene

end DuplexRpc

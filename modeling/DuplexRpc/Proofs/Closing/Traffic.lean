import DuplexRpc.Proofs.Closing.Ending

/-! The frames between two endpoints that are joined by queues. As long as nothing else ends the loop
that handles frames, it handles all that come in, one after the other; and a response that is handled
decides the outcome of the request that waits for it. -/

namespace DuplexRpc

namespace Mailbox

/-- Frames are put into a queue, if someone still takes from it. -/
structure Grows (box box' : Mailbox) : Prop where
  frames : box.frames <+: box'.frames
  receiverGone : box'.receiverGone = box.receiverGone
  refused : box.receiverGone = true → box'.frames = box.frames

variable {box box' box'' : Mailbox}

theorem Grows.refl (box : Mailbox) : box.Grows box :=
  ⟨List.prefix_rfl, rfl, fun _ => rfl⟩

theorem Grows.trans (h : box.Grows box') (h' : box'.Grows box'') : box.Grows box'' where
  frames := h.frames.trans h'.frames
  receiverGone := h'.receiverGone.trans h.receiverGone
  refused gone := (h'.refused (h.receiverGone.trans gone)).trans (h.refused gone)

/-- The first frame is taken out. -/
def pop (box : Mailbox) : Mailbox :=
  { box with frames := box.frames.drop 1 }

theorem grows_send? {frame : Frame} (sent : box.send? frame = some box') : box.Grows box' := by
  rw [send?] at sent
  split at sent
  · cases sent
  · rename_i receives
    rw [← Option.some.inj sent]
    exact ⟨List.prefix_append _ _, rfl, fun gone => absurd gone receives⟩

end Mailbox

namespace Transport

theorem box_mapBox {t : Transport} {codec : Codec} (carried : t.codec? = some codec)
    (f : Mailbox → Mailbox) : (t.mapBox f).box = f t.box := by
  cases t with
  | recorder _ _ => cases carried
  | queue _ _ _ => rfl

theorem grows_mapBox {f : Mailbox → Mailbox} (grows : ∀ box : Mailbox, box.Grows (f box))
    (t : Transport) : t.box.Grows (t.mapBox f).box := by
  cases t with
  | recorder _ _ => exact .refl _
  | queue _ _ box => exact grows box

theorem grows_post {t t' : Transport} {m : Message} (h : t.post m = .ok t') : t.box.Grows t'.box := by
  match t with
  | .recorder _ none =>
    rw [← Except.ok.inj h]
    exact .refl _
  | .recorder _ (some _) => cases h
  | .queue codec limit box =>
    rw [post] at h
    split at h
    · cases h
    · split at h
      · rename_i sent
        rw [← Except.ok.inj h]
        exact Mailbox.grows_send? sent
      · cases h

end Transport

namespace Stance

variable {v v' : Stance} {other own : Prop}

/-- Over queues no node takes from the queue that it posts to. -/
theorem grows_move (queues : v.medium ≠ .stream) (move : v.Move v') :
    v.transport.box.Grows v'.transport.box := by
  cases move with
  | post posted => exact Transport.grows_post posted
  | failPosts failure =>
    show v.transport.box.Grows (v.transport.failWith failure).box
    cases v.transport <;> exact .refl _
  | release =>
    exact Transport.grows_mapBox (f := fun box => { box with senderGone := true })
      (fun _ => ⟨List.prefix_rfl, rfl, fun _ => rfl⟩) _
  | unload stream keeps => exact absurd stream queues
  | endWriting stream => exact absurd stream queues
  | _ => exact .refl _

theorem grows_moves (queues : v.medium ≠ .stream) (moves : v.Moves v') :
    v.transport.box.Grows v'.transport.box ∧ v'.medium = v.medium := by
  induction moves with
  | refl => exact ⟨.refl _, rfl⟩
  | tail _ move ih =>
    exact ⟨ih.1.trans (grows_move (ih.2 ▸ queues) move), (medium_move move).trans ih.2⟩

/-- Only the loop of the other side takes frames away. -/
theorem Turn.grows (turn : v.Turn other own v') (queues : v.medium ≠ .stream) (idle : ¬ other) :
    v.transport.box.Grows v'.transport.box := by
  cases turn with
  | moves keeps taken moves =>
    obtain rfl := taken.resolve_left idle
    rw [drain_id] at moves
    exact (grows_moves queues moves).1
  | shut keeps taken ended =>
    obtain rfl := taken.resolve_left idle
    rw [drain_id]
    exact .refl _

/-- Only the loop itself ends. -/
theorem Turn.receiving (turn : v.Turn other own v') (idle : ¬ own) : v'.receiving = v.receiving := by
  cases turn with
  | @moves _ f keeps taken moves =>
    exact (receiving_moves moves).trans (show (v.drain f).receiving = v.receiving from rfl)
  | shut keeps taken ended => exact absurd ended idle

end Stance

/-! ### Endpoints that handle a frame -/

namespace Endpoint

/-- The endpoint after a frame was taken from the queue that it posts to. -/
def popped (e : Endpoint) : Endpoint :=
  { e with transport := e.transport.mapBox .pop }

/-- A response that can be read is the outcome of the request that waits for it. -/
theorem pool_handleFrame_response {e : Endpoint} {frame : Frame} {r : Response} {p : PendingRequest}
    (decoded : e.config.codec.decode frame = .ok (.response r)) (found : e.pool.find? r.id = some p) :
    (e.handleFrame frame).1.pool = e.pool.close p (.filled r.result) := by
  rw [Codec.decode] at decoded
  split at decoded
  · cases decoded
  · rename_i v read
    rw [handleFrame, read]
    simp only [decoded, handle, takeResponse, resolveResponse, PendingPool.resolve,
      PendingPool.finish_of_find? found]
    rfl

end Endpoint

namespace Network

variable {net : Network} {side : Side}

/-- The node of a side and the tasks of the jobs that were started there. -/
theorem nodewise_spawnJobs (jobs : List Job) : net.Nodewise (net.spawnJobs side jobs)
    fun other n n' => n' = if other = side then
      { n with tasks := n.tasks ++ Task.ofJobs net.nextSerial jobs } else n := by
  induction jobs generalizing net with
  | nil =>
    refine .of_same (fun _ => rfl) fun _ n _ => ?_
    rw [Task.ofJobs, List.append_nil]
    exact (ite_self n).symm
  | cons job jobs ih =>
    have first : net.Nodewise (net.spawn side (.handler job.origin) job.script)
        fun other n n' => n' = if other = side then
          { n with
            tasks := n.tasks ++ [⟨net.nextSerial, .handler job.origin, .going job.script⟩] }
          else n := by
      intro other
      rw [node?_spawn]
      exact nodewise_mapNode_eq side _ other
    refine first.trans ih fun other n n' n'' same same' => ?_
    rw [same', same]
    split
    · rw [Task.ofJobs, ← List.append_cons]
      rfl
    · rfl

/-- An endpoint that did something, and the tasks of the jobs that this started. -/
theorem nodewise_atEndpoint (f : Endpoint → Endpoint × List Job) :
    net.Nodewise (net.atEndpoint side f) fun other n n' => n' = if other = side then
      { n with
        endpoint := (f n.endpoint).1
        tasks := n.tasks ++ Task.ofJobs net.nextSerial (f n.endpoint).2 } else n := by
  unfold atEndpoint
  split
  · rename_i n here
    have did : net.Nodewise (net.mapNode side fun m => { m with endpoint := (f n.endpoint).1 })
        fun other m m' => (other = side → m = n) ∧
          m' = if other = side then { m with endpoint := (f n.endpoint).1 } else m := by
      refine nodewise_mapNode side (fun m there => ?_) fun m _ => ?_
      · exact ⟨fun _ => Option.some.inj (there.symm.trans here), (if_pos rfl).symm⟩
      · exact ⟨fun same => absurd same side.other_ne, (if_neg side.other_ne).symm⟩
    refine did.trans (nodewise_spawnJobs _) ?_
    rintro other m m' m'' ⟨same, rfl⟩ rfl
    by_cases there : other = side
    · obtain rfl := same there
      simp only [if_pos there, nextSerial_mapNode]
    · simp only [if_neg there]
  · rename_i missing
    refine .of_same (fun _ => rfl) fun other m there => ?_
    split
    · rename_i same
      rw [same, missing] at there
      cases there
    · rfl

/-! ### The queue of a side -/

theorem link_of_medium (queues : net.link.medium = .queues) : net.link = .queues := by
  cases link : net.link with
  | queues => rfl
  | none | stream _ _ => rw [link] at queues; cases queues

/-- The queue from which a side takes belongs to the node of the other side. -/
theorem inbox_eq (queues : net.link.medium = .queues) {m : Node}
    (there : net.node? side.other = some m) : net.inbox side = m.endpoint.transport.box := by
  rw [inbox, link_of_medium queues, there]
  rfl

theorem mapInbox_eq (queues : net.link.medium = .queues) (f : Mailbox → Mailbox) :
    net.mapInbox side f = net.mapNode side.other fun n => n.mapEndpoint fun e =>
      { e with transport := e.transport.mapBox f } := by
  rw [mapInbox, link_of_medium queues]

theorem inbox_mapNode (queues : net.link.medium = .queues) (f : Node → Node) :
    (net.mapNode side f).inbox side = net.inbox side := by
  simp only [inbox, link_mapNode, link_of_medium queues, node?_mapNode_other]

theorem inbox_mapInbox (queues : net.link.medium = .queues) {m : Node} {codec : Codec}
    (there : net.node? side.other = some m) (carried : m.endpoint.transport.codec? = some codec)
    (f : Mailbox → Mailbox) : (net.mapInbox side f).inbox side = f (net.inbox side) := by
  have medium : (net.mapInbox side f).link.medium = .queues := by
    rw [mapInbox_eq queues, medium_mapNode, queues]
  have posts : (net.mapInbox side f).node? side.other = some (m.mapEndpoint fun e =>
      { e with transport := e.transport.mapBox f }) := by
    rw [mapInbox_eq queues, node?_mapNode_self, there]
    rfl
  rw [inbox_eq medium posts, inbox_eq queues there]
  exact Transport.box_mapBox carried f

/-- The loop that ends throws away what was left in its queue. -/
theorem inbox_endReceiving (queues : net.link.medium = .queues) {m : Node} {codec : Codec}
    (there : net.node? side.other = some m) (carried : m.endpoint.transport.codec? = some codec) :
    (net.endReceiving side).inbox side = (net.inbox side).close := by
  rw [endReceiving, inbox_mapInbox ((medium_mapNode _).trans queues)
    ((node?_mapNode_other _).trans there) carried, inbox_mapNode queues]

end Network

theorem Incident.loop_cases {side : Side} (ev : Incident) (loop : ev.IsLoop side) :
    (∃ heeds, ev = .go (.receiving side heeds)) ∨ ev = .cancel side .receiving := by
  unfold IsLoop at loop
  split at loop
  · unfold Agent.IsLoop at loop
    split at loop
    · subst loop
      exact .inl ⟨_, rfl⟩
    · exact loop.elim
  · subst loop
    exact .inr rfl
  · exact loop.elim

/-- The loop that handles frames for a side is cancelled. -/
def Incident.isCancel (side : Side) : Incident → Bool
  | .cancel x .receiving => x == side
  | _ => false

namespace Scene

variable {s : Scene} {side : Side} {n m : Node} {ev : Incident}

/-- The frames that are put, in an incident, into the queue from which a side takes. -/
def puts (s : Scene) (side : Side) (ev : Incident) : List Frame :=
  ((s.step ev).net.inbox side).frames.drop (s.net.inbox side).frames.length

/-- The frame that the loop of a side handles in an incident, and the endpoint that handles it. -/
def handles? (s : Scene) (side : Side) : Incident → Option (Frame × Endpoint)
  | .go (.receiving x heeds) =>
    if x = side then
      ((s.net.node? side).filter fun n => n.receiving && n.isHeld && !(n.isStopped && heeds)).bind
        fun n => (s.net.inbox side).frames.head?.map (·, n.endpoint)
    else none
  | _ => none

/-- The frames that are put into the queue from which a side takes. -/
def posted (s : Scene) (side : Side) : List Incident → List Frame
  | [] => []
  | ev :: events => s.puts side ev ++ (s.step ev).posted side events

/-- The frames that the loop of a side handles, and the endpoints that handle them. -/
def handled (s : Scene) (side : Side) : List Incident → List (Frame × Endpoint)
  | [] => []
  | ev :: events => (s.handles? side ev).toList ++ (s.step ev).handled side events

/-- The loop of a side that handles frames is not cancelled, and while it runs its endpoint is not
stopped. -/
def Undisturbed (s : Scene) (side : Side) : List Incident → Prop
  | [] => True
  | ev :: events => ev.isCancel side = false ∧
      (s.net.node? side).any (fun n => n.receiving && n.isStopped) = false ∧
      (s.step ev).Undisturbed side events

instance decidableUndisturbed (s : Scene) (side : Side) (events : List Incident) :
    Decidable (s.Undisturbed side events) :=
  match events with
  | [] => inferInstanceAs (Decidable True)
  | ev :: events =>
    have := decidableUndisturbed (s.step ev) side events
    inferInstanceAs (Decidable (_ ∧ _ ∧ _))

theorem live_of_any (calm : (s.net.node? side).any (fun n => n.receiving && n.isStopped) = false)
    (here : s.net.node? side = some n) (running : n.receiving = true) : n.isStopped = false := by
  simpa [here, running] using calm

/-- What holds of an undisturbed run holds at every moment of it. -/
theorem Undisturbed.live {before after : List Incident}
    (calm : s.Undisturbed side (before ++ ev :: after)) :
    ((s.run before).net.node? side).any (fun n => n.receiving && n.isStopped) = false := by
  induction before generalizing s with
  | nil => exact calm.2.1
  | cons _ before ih => exact ih calm.2.2

theorem handles?_of_idle (idle : ¬ ev.IsLoop side) : s.handles? side ev = none := by
  unfold handles?
  split
  · exact if_neg idle
  · rfl

theorem step_receiving (here : s.net.node? side = some n) (running : n.receiving = true)
    (heeds : Bool) :
    (s.step (.go (.receiving side heeds))).net = s.net.stepReceiving side n heeds := by
  simp only [step, Network.step, here, running, if_true]

/-- The frame that is handled leaves the queue. -/
theorem step_of_handles {frame : Frame} {e : Endpoint} (taken : s.handles? side ev = some (frame, e)) :
    ∃ n rest, s.net.node? side = some n ∧ n.endpoint = e ∧ n.receiving = true ∧
      (s.net.inbox side).frames = frame :: rest ∧
      (s.step ev).net = (s.net.mapInbox side .pop).atEndpoint side (·.handleFrame frame) := by
  unfold handles? at taken
  split at taken
  · split at taken
    · rename_i x heeds same
      subst same
      obtain ⟨n, found, first⟩ := Option.bind_eq_some_iff.mp taken
      obtain ⟨here, goes⟩ := Option.filter_eq_some_iff.mp found
      simp only [Bool.and_eq_true, Bool.not_eq_true'] at goes
      obtain ⟨⟨running, holding⟩, going⟩ := goes
      obtain ⟨frame', front, same⟩ := Option.map_eq_some_iff.mp first
      obtain ⟨rfl, rfl⟩ := Prod.mk.inj same
      obtain ⟨rest, frames⟩ := List.head?_eq_some_iff.mp front
      refine ⟨n, rest, here, rfl, running, frames, ?_⟩
      rw [step_receiving here running, Network.stepReceiving, going]
      simp only [frames, holding, if_true, Bool.false_eq_true, if_false]
      rfl
    · cases taken
  · cases taken

/-- What becomes of the nodes where a frame is handled. -/
theorem nodewise_of_handles {frame : Frame} {e : Endpoint} (queues : s.net.link.medium = .queues)
    (taken : s.handles? side ev = some (frame, e)) :
    s.net.Nodewise (s.step ev).net fun other n n' => n'.receiving = n.receiving ∧
      n'.endpoint = if other = side then (n.endpoint.handleFrame frame).1 else n.endpoint.popped := by
  obtain ⟨-, -, -, -, -, -, next⟩ := step_of_handles taken
  have popped : s.net.Nodewise (s.net.mapInbox side .pop) fun other n n' =>
      n'.receiving = n.receiving ∧
        n'.endpoint = if other = side then n.endpoint else n.endpoint.popped := by
    rw [Network.mapInbox_eq queues]
    refine Network.nodewise_mapNode side.other (fun n _ => ?_) fun n _ => ?_
    · exact ⟨rfl, (if_neg side.other_ne).symm⟩
    · rw [Side.other_other]
      exact ⟨rfl, (if_pos rfl).symm⟩
  rw [next]
  refine popped.trans (Network.nodewise_atEndpoint _) ?_
  rintro other n n' n'' ⟨running, same⟩ rfl
  split <;> rename_i here
  · rw [if_pos here] at same
    exact ⟨running, by rw [same]⟩
  · rw [if_neg here] at same
    exact ⟨running, same⟩

/-- Two sides that are joined by queues. Once the loop of this one is gone its queue is closed. -/
structure Fed (s : Scene) (side : Side) : Prop where
  holds : s.Holds
  queues : s.net.link.medium = .queues
  self : ∃ n, s.net.node? side = some n
  other : ∃ m, s.net.node? side.other = some m
  closed : ∀ n, s.net.node? side = some n → n.receiving = false →
    (s.net.inbox side).frames = [] ∧ (s.net.inbox side).receiverGone = true

theorem Fed.later (h : s.Fed side) (ev : Incident) :
    (s.step ev).Holds ∧ (s.step ev).net.link.medium = .queues ∧
      (∃ n, (s.step ev).net.node? side = some n) ∧ ∃ m, (s.step ev).net.node? side.other = some m := by
  obtain ⟨n, here⟩ := h.self
  obtain ⟨m, there⟩ := h.other
  obtain ⟨holds, later⟩ := h.holds.step ev
  obtain ⟨n', here', same⟩ := Network.Nodewise.node later here
  obtain ⟨m', there', -⟩ := Network.Nodewise.node later there
  exact ⟨holds, same.medium.trans h.queues, ⟨n', here'⟩, m', there'⟩

/-- The other side posts to a queue. -/
theorem Fed.carried (h : s.Fed side) (there : s.net.node? side.other = some m) :
    m.endpoint.transport.codec? = some m.endpoint.config.codec := by
  refine (h.holds side.other m there).queued ?_
  rw [show (s.stance side.other m).medium = .queues from h.queues]
  simp

/-- What comes into the queue of a side and what is left in it account for each other. -/
def Accounts (s : Scene) (side : Side) (ev : Incident) : Prop :=
  (s.net.inbox side).frames ++ s.puts side ev =
    (s.handles? side ev).toList.map Prod.fst ++ ((s.step ev).net.inbox side).frames

/-- Frames are put into the queue, none are taken. -/
theorem Fed.idle (h : s.Fed side) (idle : ¬ ev.IsLoop side) :
    (s.step ev).Fed side ∧ s.Accounts side ev := by
  obtain ⟨holds, queues, self, other⟩ := h.later ev
  obtain ⟨m, there⟩ := h.other
  have turns := turns_step h.holds ev
  obtain ⟨m', there', turn⟩ := Network.Nodewise.node turns there
  rw [Side.other_other] at turn
  have grows : (s.net.inbox side).Grows ((s.step ev).net.inbox side) := by
    rw [Network.inbox_eq h.queues there, Network.inbox_eq queues there']
    refine turn.grows (fun stream => ?_) idle
    rw [show (s.net.stance side.other _ m).medium = .queues from h.queues] at stream
    cases stream
  refine ⟨⟨holds, queues, self, other, fun n' here' ended => ?_⟩, ?_⟩
  · obtain ⟨n, here, turn⟩ := Network.Nodewise.origin turns here'
    have running : n'.receiving = n.receiving := turn.receiving idle
    obtain ⟨empty, gone⟩ := h.closed n here (running ▸ ended)
    exact ⟨(grows.refused gone).trans empty, grows.receiverGone.trans gone⟩
  · obtain ⟨more, frames⟩ := grows.frames
    rw [Accounts, puts, handles?_of_idle idle, ← frames, List.drop_left]
    rfl

/-- The first frame is taken. -/
theorem Fed.handle (h : s.Fed side) {frame : Frame} {e : Endpoint}
    (taken : s.handles? side ev = some (frame, e)) :
    (s.step ev).Fed side ∧ s.Accounts side ev := by
  obtain ⟨holds, queues, self, other⟩ := h.later ev
  obtain ⟨m, there⟩ := h.other
  obtain ⟨n, rest, here, -, running, frames, -⟩ := step_of_handles taken
  have nodes := nodewise_of_handles h.queues taken
  refine ⟨⟨holds, queues, self, other, fun n' here' ended => ?_⟩, ?_⟩
  · obtain ⟨n₀, here₀, same, -⟩ := Network.Nodewise.origin nodes here'
    obtain rfl := Option.some.inj (here.symm.trans here₀)
    rw [same, running] at ended
    cases ended
  · obtain ⟨m', there', -, same⟩ := Network.Nodewise.node nodes there
    have left : ((s.step ev).net.inbox side).frames = rest := by
      rw [Network.inbox_eq queues there', same, if_neg side.other_ne, Endpoint.popped,
        Transport.box_mapBox (h.carried there), ← Network.inbox_eq h.queues there, Mailbox.pop,
        frames]
      rfl
    rw [Accounts, puts, taken, left, frames, List.drop_eq_nil_of_le (by simp), List.append_nil]
    rfl

/-- The loop finds its queue empty, and ends if nothing more will come. -/
theorem Holds.step_waiting (h : s.Holds) (here : s.net.node? side = some n)
    (running : n.receiving = true) (live : n.isStopped = false) {heeds : Bool}
    (untaken : s.handles? side (.go (.receiving side heeds)) = none) :
    (s.net.inbox side).frames = [] ∧ (s.step (.go (.receiving side heeds))).net =
      if (s.net.inbox side).senderGone then
        (s.net.mapNode side (·.note .receivingEnded)).endReceiving side else s.net := by
  -- who lets go of an endpoint stops it
  have holding : n.isHeld = true := by
    cases gone : n.isHeld with
    | true => rfl
    | false => exact absurd ((h side n here).released gone).1 (Bool.eq_false_iff.mp live)
  have empty : (s.net.inbox side).frames = [] := by
    simpa [handles?, here, running, holding, live, Option.filter] using untaken
  refine ⟨empty, ?_⟩
  rw [step_receiving here running, Network.stepReceiving, live]
  simp only [empty, Bool.false_and, Bool.false_eq_true, if_false]

/-- The loop finds its queue empty: it waits, or ends since nothing more will come. -/
theorem Fed.wait (h : s.Fed side)
    (calm : (s.net.node? side).any (fun n => n.receiving && n.isStopped) = false) {heeds : Bool}
    (untaken : s.handles? side (.go (.receiving side heeds)) = none) :
    (s.step (.go (.receiving side heeds))).Fed side ∧
      s.Accounts side (.go (.receiving side heeds)) := by
  obtain ⟨holds, queues, self, other⟩ := h.later (.go (.receiving side heeds))
  obtain ⟨n, here⟩ := h.self
  obtain ⟨m, there⟩ := h.other
  have same (stays : (s.step (.go (.receiving side heeds))).net = s.net) :
      (s.step (.go (.receiving side heeds))).Fed side ∧
        s.Accounts side (.go (.receiving side heeds)) := by
    refine ⟨⟨holds, queues, self, other, stays ▸ h.closed⟩, ?_⟩
    rw [Accounts, puts, untaken, stays, List.drop_length, List.append_nil]
    rfl
  cases running : n.receiving with
  | false =>
    -- the loop is gone: nothing happens, and the queue stays closed
    refine same ?_
    simp only [step, Network.step, here, running, Bool.false_eq_true, if_false]
  | true =>
    have live := live_of_any calm here running
    obtain ⟨empty, next⟩ := h.holds.step_waiting here running live untaken
    cases gone : (s.net.inbox side).senderGone with
    | false => exact same (by rw [next, gone]; rfl)
    | true =>
      have inbox : (s.step (.go (.receiving side heeds))).net.inbox side =
          (s.net.inbox side).close := by
        rw [next, gone, if_pos rfl, Network.inbox_endReceiving ((Network.medium_mapNode _).trans h.queues)
          ((Network.node?_mapNode_other _).trans there) (h.carried there),
          Network.inbox_mapNode h.queues]
      refine ⟨⟨holds, queues, self, other, fun _ _ _ => by rw [inbox]; exact ⟨rfl, rfl⟩⟩, ?_⟩
      rw [Accounts, puts, untaken, inbox, empty]
      rfl

theorem Fed.step (h : s.Fed side) (kept : ev.isCancel side = false)
    (calm : (s.net.node? side).any (fun n => n.receiving && n.isStopped) = false) :
    (s.step ev).Fed side ∧ s.Accounts side ev := by
  by_cases loop : ev.IsLoop side
  · cases taken : s.handles? side ev with
    | some x => exact h.handle taken
    | none =>
      obtain ⟨heeds, rfl⟩ | rfl := ev.loop_cases loop
      · exact h.wait calm taken
      · simp [Incident.isCancel] at kept
  · exact h.idle loop

/-- All frames that come in are handled, in their order, save for those that are still there. -/
theorem Fed.run {events : List Incident} (h : s.Fed side) (calm : s.Undisturbed side events) :
    (s.run events).Fed side ∧
      (s.net.inbox side).frames ++ s.posted side events =
        (s.handled side events).map Prod.fst ++ ((s.run events).net.inbox side).frames := by
  induction events generalizing s with
  | nil => exact ⟨h, List.append_nil _⟩
  | cons ev events ih =>
    obtain ⟨kept, now, calm⟩ := calm
    obtain ⟨h', accounts⟩ := h.step kept now
    obtain ⟨h'', rest⟩ := ih h' calm
    refine ⟨h'', ?_⟩
    calc (s.net.inbox side).frames ++ s.posted side (ev :: events)
        = ((s.net.inbox side).frames ++ s.puts side ev) ++ (s.step ev).posted side events :=
          (List.append_assoc ..).symm
      _ = (s.handles? side ev).toList.map Prod.fst ++
            (((s.step ev).net.inbox side).frames ++ (s.step ev).posted side events) := by
          rw [accounts, List.append_assoc]
      _ = (s.handled side (ev :: events)).map Prod.fst ++
            (((s.step ev).run events).net.inbox side).frames := by
          rw [rest, handled, List.map_append, List.append_assoc]

/-! ### Responses -/

/-- A response decides the outcome of the request that waits for it, for good. -/
theorem Holds.answered (h : s.Holds) (queues : s.net.link.medium = .queues) {frame : Frame}
    {e : Endpoint} (taken : s.handles? side ev = some (frame, e)) {r : Response} {p : PendingRequest}
    (decoded : e.config.codec.decode frame = .ok (.response r)) (found : e.pool.find? r.id = some p)
    (after : List Incident) : ∀ c ∈ ((s.step ev).run after).calls side, c.1 = p.ticket →
      ((s.step ev).run after).outcome? side c = some r.result := by
  obtain ⟨n, -, here, rfl, -⟩ := step_of_handles taken
  obtain ⟨n', here', -, handled⟩ := Network.Nodewise.node (nodewise_of_handles queues taken) here
  rw [if_pos rfl] at handled
  have pool : n'.endpoint.pool = n.endpoint.pool.close p (.filled r.result) := by
    rw [handled, Endpoint.pool_handleFrame_response decoded found]
  obtain ⟨h', -⟩ := h.step ev
  obtain ⟨h'', later⟩ := h'.run after
  obtain ⟨n'', here'', later⟩ := Network.Nodewise.node later here'
  have sound : n.endpoint.pool.Sound := (h side n here).pool
  obtain ⟨mem, -⟩ := PendingPool.find?_eq_some found
  intro c hc same
  rw [calls_eq here''] at hc
  -- the call was there when its request was answered, so that it kept its outcome since
  have early : c.1 < n'.endpoint.pool.nextTicket := by
    rw [pool, same]
    exact sound.below p mem
  obtain ⟨there, keeps⟩ := later.calls c hc early
  have slot : n'.endpoint.pool.HasSlot c.1 := (h' side n' here').slot c there
  rw [pool, same] at slot
  rw [outcome?_eq here'']
  refine keeps.outcome _ ?_
  show n'.endpoint.pool.outcome? c.1 = some r.result
  rw [pool, same]
  exact sound.outcome?_close mem slot

end Scene

end DuplexRpc

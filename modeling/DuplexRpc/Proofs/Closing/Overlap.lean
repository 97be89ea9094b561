import DuplexRpc.Proofs.Closing.Incidents

/-! Calls that overlap. In a scene each call, each `stop` and each end of the loop that handles frames
is done at once, but nothing keeps what others do out of their parts: a request looks whether the
endpoint is stopped, takes an id, is entered and is posted; who stops an endpoint cancels its token,
collects the ids of the requests that wait, and fails one after the other; and the loop lets go of
what it holds piece by piece. Here each of these parts is a step. Taking an entry out of the pool and
filling its slot stay one step: only who took it out can fill it. -/

namespace DuplexRpc

namespace Network

variable {net : Network} {side : Side}

theorem mapNode_id (net : Network) (side : Side) : net.mapNode side id = net := by
  cases side
  · rfl
  · simp only [mapNode, Option.map_id, id]

/-- A change to the inbox of a side and one that does not touch it nor what is posted. -/
theorem mapInbox_mapNode {f : Node → Node} {g : Mailbox → Mailbox}
    (inbox : ∀ n, f { n with inbox := g n.inbox } = { f n with inbox := g (f n).inbox }) :
    (net.mapInbox side g).mapNode side f = (net.mapNode side f).mapInbox side g := by
  obtain ⟨a, b, link, gates, nextSerial, clock, log, endings, queue⟩ := net
  cases link <;> cases side <;> cases b <;> simp [mapInbox, mapNode, Side.other, inbox]

theorem mapNode_congr {n : Node} {f g : Node → Node} (here : net.node? side = some n)
    (same : f n = g n) : net.mapNode side f = net.mapNode side g := by
  cases side with
  | a =>
    obtain rfl := Option.some.inj here
    simp only [mapNode, same]
  | b =>
    have here : net.b = some n := here
    simp only [mapNode, here, Option.map_some, same]

end Network

/-- What a request asks for. -/
structure Demand where
  method : String
  params : Option Value
  timeout : Option Duration
  resultType : String

/-- How far a call got. -/
inductive Stage where
  | called (what : Launch)
  /-- The method has its name and its parameters. -/
  | prepared (d : Demand)
  /-- The endpoint was not asked to stop. -/
  | tested (d : Demand)
  | numbered (d : Demand) (id : Id)
  | entered (d : Demand) (id : Id) (ticket : Nat)
  /-- The call was given to whom it is for. The ticket is that of the entry it had. -/
  | made (call : Call) (ticket : Option Nat)

namespace Stage

def isMade : Stage → Bool
  | made _ _ => true
  | _ => false

/-- The request passed the test and has no entry yet. -/
def isAdmitted : Stage → Bool
  | tested _ | numbered _ _ => true
  | _ => false

/-- The ticket of the entry that the request has or had. -/
def ticket? : Stage → Option Nat
  | entered _ _ ticket => some ticket
  | made _ ticket => ticket
  | _ => none

/-- The ticket and the id of a request that waits. -/
def key? : Stage → Option (Nat × Id)
  | entered _ id ticket => some (ticket, id)
  | made call _ => call.key?
  | _ => none

end Stage

/-- The next part of a call. -/
def Endpoint.advance (e : Endpoint) (now : Nat) : Stage → Stage × Endpoint
  | .called (.plain method params timeout resultType) =>
    (.prepared ⟨method, params, timeout, resultType⟩, e)
  | .called (.mapped client service method args) =>
    match e.resolve service method with
    | (.error err, e) => (.made (.fail err) none, e)
    | (.ok m, e) =>
      if m.kind = .notification then
        (.made (.fail { kind := .invalidMapping, message := s!"{m.name} is a notification" }) none, e)
      else
        match pack m args with
        | .error err => (.made (.fail err) none, e)
        | .ok params => (.prepared ⟨m.name, params, m.timeout.or client.timeout, m.resultType⟩, e)
  | .prepared d => if e.isStopped then (.made (.fail .interrupted) none, e) else (.tested d, e)
  | .tested d =>
    let (id, ids) := e.ids.take
    (.numbered d id, { e with ids }.note (.requesting id d.method))
  | .numbered d id =>
    match e.pool.add ⟨id, d.method, d.params⟩ d.resultType (deadline now d.timeout) with
    | .error err => (.made (.fail err) none, e)
    | .ok (ticket, pool) => (.entered d id ticket, { e with pool })
  | .entered d id ticket =>
    let (call, e) := e.postRequest ⟨id, d.method, d.params⟩ ticket
    (.made call (some ticket), e)
  | .made call ticket => (.made call ticket, e)

namespace Endpoint

/-- The next part of a call, at the endpoint that the last one left. -/
def advanced (now : Nat) (x : Stage × Endpoint) : Stage × Endpoint :=
  x.2.advance now x.1

theorem advanced_made (now n : Nat) (call : Call) (ticket : Option Nat) (e : Endpoint) :
    (advanced now)^[n] (.made call ticket, e) = (.made call ticket, e) :=
  Function.iterate_fixed rfl n

theorem advanced_of_isMade {stage : Stage} (made : stage.isMade = true) (now n : Nat) (e : Endpoint) :
    (advanced now)^[n] (stage, e) = (stage, e) := by
  cases stage with
  | made call ticket => exact advanced_made now n call ticket e
  | _ => cases made

/-- The parts of a request one after the other are the request. -/
theorem advanced_prepared (e : Endpoint) (now : Nat) (d : Demand) :
    ∃ ticket, (advanced now)^[4] (.prepared d, e) =
      (.made (e.request now d.method d.params d.timeout d.resultType).1 ticket,
        (e.request now d.method d.params d.timeout d.resultType).2) := by
  simp only [Function.iterate_succ, Function.iterate_zero, Function.comp, id, advanced]
  cases stopped : e.isStopped with
  | true => exact ⟨none, by simp [advance, request, stopped]⟩
  | false =>
    cases entry : e.pool.add ⟨e.ids.take.1, d.method, d.params⟩ d.resultType
        (deadline now d.timeout) with
    | error err => exact ⟨none, by simp [advance, request, stopped, entry]⟩
    | ok entered => exact ⟨some entered.1, by simp [advance, request, stopped, entry]⟩

/-- The parts of a call one after the other are the call. -/
theorem advanced_called (e : Endpoint) (now : Nat) (what : Launch) :
    ∃ ticket, (advanced now)^[5] (.called what, e) =
      (.made (e.launch now what).1 ticket, (e.launch now what).2) := by
  rw [Function.iterate_succ_apply, advanced]
  cases what with
  | plain method params timeout resultType =>
    exact e.advanced_prepared now ⟨method, params, timeout, resultType⟩
  | mapped client service method args =>
    rcases resolved : e.resolve service method with ⟨err | m, e'⟩
    all_goals simp only [advance, launch, resolved]
    · exact ⟨none, advanced_made ..⟩
    · split
      · exact ⟨none, advanced_made ..⟩
      · cases pack m args with
        | error err => exact ⟨none, advanced_made ..⟩
        | ok params => exact e'.advanced_prepared now ⟨m.name, params, _, m.resultType⟩

end Endpoint

/-- A call that is being made. -/
structure Making where
  /-- The task that makes it, none for a caller. -/
  task : Option Nat
  stage : Stage

/-- The ticket and the id of a call that waits while it is being made. -/
def Making.key? (m : Making) : Option (Nat × Id) :=
  if m.stage.isMade then none else m.stage.key?

/-- What is left to do for one who closes an endpoint. -/
inductive Duty where
  /-- The token is cancelled. -/
  | token
  /-- The ids of the requests that wait are collected. -/
  | list
  /-- The requests of these ids fail, one after the other. -/
  | fail (ids : List Id)
  /-- The inbox is dropped. -/
  | inbox
  /-- The supervisor counts one loop less. -/
  | exit
deriving DecidableEq

namespace Duty

/-- The duty belongs to a sweep through the pool. -/
def isSweep : Duty → Bool
  | list | fail _ => true
  | _ => false

/-- Who calls `stop`. -/
def ofStop : List Duty :=
  [token, list]

/-- The loop that handles frames, where it has begun: its body lets go of the token before the pool. -/
def ofLoop : List Duty :=
  [token, list, inbox, exit]

/-- Does a part of a duty. Gives the duties that come in its place. -/
def perform (net : Network) (side : Side) : Duty → List Duty × Network
  | token => ([], net.mapNode side Node.requestStop)
  | list =>
    let ids := ((net.node? side).map fun n => n.endpoint.pool.entries.map (·.id)).getD []
    ([fail ids], net)
  | fail [] => ([], net)
  | fail (id :: ids) =>
    ([fail ids], net.mapNode side fun n => n.mapEndpoint fun e =>
      { e with pool := (e.pool.finish id (.error .interrupted)).2 })
  | inbox => ([], net.mapInbox side Mailbox.close)
  | exit => ([], net.mapNode side Node.superviseFinish)

end Duty

namespace Scene

/-- What a task asks its endpoint for, and how it goes on after it. -/
def asks? (s : Scene) (side : Side) (serial : Nat) : Option (Launch × (Outcome → Script)) :=
  match (s.net.node? side).bind (·.tasks.find? (·.serial == serial)) with
  | some { stand := .going (.request what next), .. } => some (what, next)
  | _ => none

/-- A call is there for whom it was made. A task that asked for it waits for it, and any other is held
by a caller. -/
def give (s : Scene) (side : Side) (task : Option Nat) (call : Call) : Scene :=
  match task with
  | some serial =>
    match s.asks? side serial with
    | some (_, next) =>
      { s with net := s.net.mapNode side (·.setStand serial (.awaiting call next)) }
    | none => s.hold side call.key?.toList
  | none => s.hold side call.key?.toList

/-- A call is given to whom it is for once it was made. -/
def giveMade (s : Scene) (side : Side) (task : Option Nat) : Stage → Scene
  | .made call _ => s.give side task call
  | _ => s

/-- The endpoint of a side is another one. -/
def setEndpoint (s : Scene) (side : Side) (e : Endpoint) : Scene :=
  { s with net := s.net.mapNode side fun n => { n with endpoint := e } }

/-- The requests that wait at the endpoint of a side. -/
def pool (s : Scene) (side : Side) : PendingPool :=
  ((s.net.node? side).map fun n => n.endpoint.pool).getD {}

variable {s : Scene} {side : Side}

theorem pool_eq {n : Node} (here : s.net.node? side = some n) : s.pool side = n.endpoint.pool := by
  rw [pool, here, Option.map_some, Option.getD_some]

theorem asks?_eq_some {serial : Nat} {what : Launch} {next : Outcome → Script}
    (asks : s.asks? side serial = some (what, next)) :
    ∃ n t, s.net.node? side = some n ∧ t ∈ n.tasks ∧ t.serial = serial ∧
      t.stand = .going (.request what next) := by
  rw [asks?] at asks
  split at asks
  · rename_i serial' role what' next' found
    obtain ⟨n, here, found⟩ := Option.bind_eq_some_iff.mp found
    cases asks
    exact ⟨n, _, here, List.mem_of_find?_eq_some found, by simpa using List.find?_some found, rfl⟩
  · cases asks

/-- A call is held by a caller, or the task waits for it that asked for it. -/
theorem give_cases (s : Scene) (side : Side) (task : Option Nat) (call : Call) :
    s.give side task call = s.hold side call.key?.toList ∨
      ∃ serial what next, s.asks? side serial = some (what, next) ∧ s.give side task call =
        { s with net := s.net.mapNode side (·.setStand serial (.awaiting call next)) } := by
  cases task with
  | none => exact .inl rfl
  | some serial =>
    cases asks : s.asks? side serial with
    | none => exact .inl (by simp only [give, asks])
    | some found => exact .inr ⟨serial, found.1, found.2, asks, by simp only [give, asks]⟩

theorem giveMade_of_going {stage : Stage} (going : stage.isMade = false) {task : Option Nat} :
    s.giveMade side task stage = s := by
  cases stage with
  | made call ticket => cases going
  | _ => rfl

theorem setEndpoint_self {n : Node} (here : s.net.node? side = some n) :
    s.setEndpoint side n.endpoint = s := by
  have same : s.net.mapNode side (fun m => { m with endpoint := n.endpoint }) = s.net.mapNode side id :=
    Network.mapNode_congr here rfl
  rw [setEndpoint, same, Network.mapNode_id]

theorem setEndpoint_setEndpoint (s : Scene) (side : Side) (e e' : Endpoint) :
    (s.setEndpoint side e).setEndpoint side e' = s.setEndpoint side e' := by
  simp only [setEndpoint, Network.mapNode_mapNode]
  rfl

theorem clock_setEndpoint (s : Scene) (side : Side) (e : Endpoint) :
    (s.setEndpoint side e).net.clock = s.net.clock := by
  cases side <;> rfl

end Scene

/-- The task that goes on or is aborted in an incident. -/
def Incident.task? : Incident → Option (Side × Nat)
  | .go (.task side serial) | .abort side serial => some (side, serial)
  | _ => none

/-- A scene, the calls that are being made there, and what is left to do for those who close an
endpoint. Calls and those who close keep their places after they are through. -/
structure Overlap where
  scene : Scene
  making : Side → List Making := fun _ => []
  closing : Side → List (List Duty) := fun _ => []

namespace Overlap

/-- A part of what goes on. -/
inductive Part where
  /-- Something is done at once. -/
  | whole (ev : Incident)
  /-- A caller begins to make a call. -/
  | call (side : Side) (what : Launch)
  /-- A task begins to make the call that it is to make. -/
  | callFrom (side : Side) (serial : Nat)
  /-- The call at a place gets further. -/
  | advance (side : Side) (k : Nat)
  /-- A holder begins to stop an endpoint. -/
  | stop (side : Side)
  /-- The loop that handles frames begins to end, wherever it is, and lets go of what it holds in some
  order. -/
  | leave (side : Side) (duties : List Duty)
  /-- Who closes at a place gets further. -/
  | close (side : Side) (k : Nat)

def putMaking (w : Overlap) (side : Side) (making : List Making) : Overlap :=
  { w with making := fun x => if x = side then making else w.making x }

def putClosing (w : Overlap) (side : Side) (closing : List (List Duty)) : Overlap :=
  { w with closing := fun x => if x = side then closing else w.closing x }

/-- A task of a side makes a call, and does nothing else. -/
def isBusy (w : Overlap) (side : Side) (serial : Nat) : Bool :=
  (w.making side).any fun m => m.task == some serial && !m.stage.isMade

/-- The call at a place gets to a stage. -/
def reach (w : Overlap) (side : Side) (k : Nat) (task : Option Nat) (x : Stage × Endpoint) :
    Overlap :=
  { w.putMaking side ((w.making side).set k ⟨task, x.1⟩) with
    scene := (w.scene.setEndpoint side x.2).giveMade side task x.1 }

/-- Who closes at a place has done a part of a duty. -/
def discharge (w : Overlap) (side : Side) (k : Nat) (rest : List Duty) (x : List Duty × Network) :
    Overlap :=
  { w.putClosing side ((w.closing side).set k (x.1 ++ rest)) with scene.net := x.2 }

/-- What a part does. One that cannot happen changes nothing. -/
def step (w : Overlap) : Part → Overlap
  | .whole ev =>
    if ev.task?.any fun (side, serial) => w.isBusy side serial then w
    else { w with scene := w.scene.step ev }
  | .call side what =>
    match w.scene.holder? side with
    | some _ => w.putMaking side (w.making side ++ [⟨none, .called what⟩])
    | none => w
  | .callFrom side serial =>
    match w.scene.asks? side serial with
    | some (what, _) =>
      if w.isBusy side serial then w
      else w.putMaking side (w.making side ++ [⟨some serial, .called what⟩])
    | none => w
  | .advance side k =>
    match w.scene.net.node? side, (w.making side)[k]? with
    | some n, some m =>
      if m.stage.isMade then w
      else
        w.reach side k m.task (n.endpoint.advance w.scene.net.clock m.stage)
    | _, _ => w
  | .stop side =>
    match w.scene.holder? side with
    | some _ => w.putClosing side (w.closing side ++ [Duty.ofStop])
    | none => w
  | .leave side duties =>
    match (w.scene.net.node? side).filter (·.receiving) with
    | some _ =>
      if duties.isPerm Duty.ofLoop then
        { w.putClosing side (w.closing side ++ [duties]) with
          scene.net := w.scene.net.mapNode side fun n => { n with receiving := false } }
      else w
    | none => w
  | .close side k =>
    match (w.closing side)[k]? with
    | some (duty :: rest) => w.discharge side k rest (duty.perform w.scene.net side)
    | _ => w

def run (w : Overlap) (parts : List Part) : Overlap :=
  parts.foldl step w

theorem run_cons (w : Overlap) (part : Part) (parts : List Part) :
    w.run (part :: parts) = (w.step part).run parts :=
  rfl

theorem run_append (w : Overlap) (parts more : List Part) :
    w.run (parts ++ more) = (w.run parts).run more :=
  List.foldl_append

/-! ### Nothing in between -/

variable {w : Overlap} {side : Side} {n : Node} {k : Nat}

theorem run_of_fixed {part : Part} (same : w.step part = w) (j : Nat) :
    w.run (List.replicate j part) = w := by
  induction j with
  | zero => rfl
  | succ j ih =>
    rw [List.replicate_succ, run_cons, same]
    exact ih

theorem step_advance {m : Making} (here : w.scene.net.node? side = some n)
    (there : (w.making side)[k]? = some m) (going : m.stage.isMade = false) :
    w.step (.advance side k) =
      w.reach side k m.task (n.endpoint.advance w.scene.net.clock m.stage) := by
  simp [step, here, there, going]

theorem step_advance_of_made {m : Making} (there : (w.making side)[k]? = some m)
    (made : m.stage.isMade = true) : w.step (.advance side k) = w := by
  cases here : w.scene.net.node? side <;> simp [step, here, there, made]

theorem making_reach {m : Making} (there : (w.making side)[k]? = some m) (task : Option Nat)
    (x : Stage × Endpoint) : ((w.reach side k task x).making side)[k]? = some ⟨task, x.1⟩ := by
  obtain ⟨inside, -⟩ := List.getElem?_eq_some_iff.mp there
  simp [reach, putMaking, inside]

/-- A call gets further while nothing else goes on. -/
theorem scene_run_advance {m : Making} (here : w.scene.net.node? side = some n)
    (there : (w.making side)[k]? = some m) (going : m.stage.isMade = false) (j : Nat) :
    (w.run (List.replicate j (.advance side k))).scene =
      let x := (Endpoint.advanced w.scene.net.clock)^[j] (m.stage, n.endpoint)
      (w.scene.setEndpoint side x.2).giveMade side m.task x.1 := by
  induction j generalizing w n m with
  | zero =>
    simp only [Function.iterate_zero, id]
    rw [Scene.giveMade_of_going going, Scene.setEndpoint_self here]
    rfl
  | succ j ih =>
    rw [List.replicate_succ, run_cons, step_advance here there going, Function.iterate_succ_apply,
      Endpoint.advanced]
    rcases n.endpoint.advance w.scene.net.clock m.stage with ⟨stage, e⟩
    have there' := making_reach there m.task (stage, e)
    cases made : stage.isMade with
    | true =>
      rw [run_of_fixed (step_advance_of_made there' made), Endpoint.advanced_of_isMade made]
      rfl
    | false =>
      have scene : (w.reach side k m.task (stage, e)).scene = w.scene.setEndpoint side e :=
        Scene.giveMade_of_going made
      have here' : (w.reach side k m.task (stage, e)).scene.net.node? side =
          some { n with endpoint := e } := by
        rw [scene, Scene.setEndpoint, Network.node?_mapNode_self, here]
        rfl
      rw [ih here' there' made, scene]
      simp only [Scene.setEndpoint_setEndpoint, Scene.clock_setEndpoint]

/-- A call that a caller makes while nothing else goes on is made at once. -/
theorem scene_run_call (w : Overlap) (side : Side) (what : Launch) :
    (w.run (.call side what :: List.replicate 5 (.advance side (w.making side).length))).scene =
      w.scene.step (.launch side what) := by
  rw [run_cons]
  cases found : w.scene.holder? side with
  | none =>
    have same : w.step (.call side what) = w := by simp only [step, found]
    have idle : w.step (.advance side (w.making side).length) = w := by
      cases here : w.scene.net.node? side <;> simp [step, here]
    rw [same, run_of_fixed idle]
    simp only [Scene.step, found]
  | some n =>
    have begun : w.step (.call side what) =
        w.putMaking side (w.making side ++ [⟨none, .called what⟩]) := by
      simp only [step, found]
    have there : ((w.putMaking side (w.making side ++ [⟨none, .called what⟩])).making side)[
        (w.making side).length]? = some ⟨none, .called what⟩ := by
      simp [putMaking]
    have here : w.scene.net.node? side = some n := (Scene.holder?_eq_some found).1
    obtain ⟨ticket, made⟩ := n.endpoint.advanced_called w.scene.net.clock what
    rw [begun, scene_run_advance (w := w.putMaking side _) here there rfl 5]
    simp only [Scene.step, found, putMaking, made]
    rfl

theorem step_close {duty : Duty} {rest : List Duty}
    (there : (w.closing side)[k]? = some (duty :: rest)) :
    w.step (.close side k) = w.discharge side k rest (duty.perform w.scene.net side) := by
  simp only [step, there]

theorem step_close_of_none (none : (w.closing side)[k]? = none) : w.step (.close side k) = w := by
  simp only [step, none]

theorem closing_discharge {duties : List Duty} (there : (w.closing side)[k]? = some duties)
    (rest : List Duty) (x : List Duty × Network) :
    ((w.discharge side k rest x).closing side)[k]? = some (x.1 ++ rest) := by
  obtain ⟨inside, -⟩ := List.getElem?_eq_some_iff.mp there
  simp [discharge, putClosing, inside]

/-- The requests whose ids were collected fail while nothing else goes on. -/
theorem run_fail {ids : List Id} {rest : List Duty}
    (there : (w.closing side)[k]? = some (.fail ids :: rest)) :
    let u := w.run (List.replicate (ids.length + 1) (.close side k))
    (u.closing side)[k]? = some rest ∧
      u.scene = { w.scene with net := w.scene.net.mapNode side fun n => n.mapEndpoint fun e =>
        { e with
          pool := ids.foldl (fun pool id => (pool.finish id (.error .interrupted)).2) e.pool } } := by
  induction ids generalizing w with
  | nil =>
    rw [List.length_nil, Nat.zero_add, List.replicate_one, run_cons, step_close there]
    refine ⟨closing_discharge there rest _, ?_⟩
    exact congrArg (Scene.mk · w.scene.held) (w.scene.net.mapNode_id side).symm
  | cons id ids ih =>
    rw [List.length_cons, List.replicate_succ, run_cons, step_close there]
    obtain ⟨closing, scene⟩ := ih (closing_discharge there rest ((Duty.fail (id :: ids)).perform
      w.scene.net side))
    refine ⟨closing, ?_⟩
    rw [scene]
    simp only [discharge, Duty.perform, Network.mapNode_mapNode]
    rfl

/-- Who sweeps while nothing else goes on fails all requests at once. -/
theorem run_sweep {rest : List Duty} (there : (w.closing side)[k]? = some (.list :: rest))
    (here : w.scene.net.node? side = some n) (sound : n.endpoint.pool.Sound) :
    let u := w.run (List.replicate (n.endpoint.pool.size + 2) (.close side k))
    (u.closing side)[k]? = some rest ∧
      u.scene = { w.scene with net := w.scene.net.mapNode side fun n => n.mapEndpoint fun e =>
        { e with pool := e.pool.failAll .interrupted } } := by
  have listed := step_close there
  simp only [Duty.perform, here, Option.map_some, Option.getD_some] at listed
  obtain ⟨closing, scene⟩ := run_fail (closing_discharge there rest
    ([.fail (n.endpoint.pool.entries.map (·.id))], w.scene.net))
  rw [List.length_map] at closing scene
  rw [List.replicate_succ, run_cons, listed]
  refine ⟨closing, scene.trans ?_⟩
  refine congrArg (Scene.mk · w.scene.held) (Network.mapNode_congr here ?_)
  simp only [Node.mapEndpoint, sound.foldl_finish_ids]

/-- Who cancels the token first, and sweeps then, while nothing else goes on. -/
theorem run_token_sweep {rest : List Duty} (there : (w.closing side)[k]? = some (.token :: .list :: rest))
    (here : w.scene.net.node? side = some n) (sound : n.endpoint.pool.Sound) :
    let u := w.run (List.replicate (n.endpoint.pool.size + 3) (.close side k))
    (u.closing side)[k]? = some rest ∧
      u.scene = { w.scene with net := w.scene.net.mapNode side (·.mapEndpoint Endpoint.stop) } := by
  have here' : (w.scene.net.mapNode side Node.requestStop).node? side = some n.requestStop := by
    rw [Network.node?_mapNode_self, here]
    rfl
  obtain ⟨closing, scene⟩ := run_sweep (closing_discharge there (.list :: rest)
    (Duty.token.perform w.scene.net side)) here' sound
  rw [List.replicate_succ, run_cons, step_close there]
  refine ⟨closing, scene.trans ?_⟩
  simp only [discharge, Duty.perform, Network.mapNode_mapNode]
  rfl

/-- Who stops an endpoint while nothing else goes on stops it at once. -/
theorem scene_run_stop (regular : w.scene.Holds) (side : Side) :
    (w.run (.stop side :: List.replicate ((w.scene.pool side).size + 3)
      (.close side (w.closing side).length))).scene = w.scene.step (.ask side .stop) := by
  rw [run_cons]
  cases found : w.scene.holder? side with
  | none =>
    have same : w.step (.stop side) = w := by simp only [step, found]
    rw [same, run_of_fixed (step_close_of_none (by simp))]
    simp only [Scene.step, found]
  | some n =>
    have here : w.scene.net.node? side = some n := (Scene.holder?_eq_some found).1
    have begun : w.step (.stop side) = w.putClosing side (w.closing side ++ [Duty.ofStop]) := by
      simp only [step, found]
    have there : ((w.putClosing side (w.closing side ++ [Duty.ofStop])).closing side)[
        (w.closing side).length]? = some Duty.ofStop := by
      simp [putClosing]
    rw [begun, Scene.pool_eq here, (run_token_sweep there here (regular side n here).pool).2]
    have same : w.scene.net.mapNode side (·.mapEndpoint Endpoint.stop) =
        w.scene.net.mapNode side fun m => { m with endpoint := n.endpoint.stop } :=
      Network.mapNode_congr here rfl
    simp only [Scene.step, found]
    exact congrArg (Scene.mk · w.scene.held) same

/-- The loop that handles frames ends at once while nothing else goes on. -/
theorem scene_run_leave (regular : w.scene.Holds) (side : Side) :
    (w.run (.leave side Duty.ofLoop :: List.replicate ((w.scene.pool side).size + 5)
      (.close side (w.closing side).length))).scene = w.scene.step (.cancel side .receiving) := by
  rw [run_cons]
  cases found : (w.scene.net.node? side).filter (·.receiving) with
  | none =>
    have same : w.step (.leave side Duty.ofLoop) = w := by simp only [step, found]
    rw [same, run_of_fixed (step_close_of_none (by simp))]
    simp only [Scene.step, Network.cancel]
    split
    · rfl
    · rename_i n here
      rw [here, Option.filter_some] at found
      split at found
      · cases found
      · rename_i idle
        rw [if_neg idle]
  | some n =>
    obtain ⟨here, running⟩ := Option.filter_eq_some_iff.mp found
    have begun : w.step (.leave side Duty.ofLoop) =
        { w.putClosing side (w.closing side ++ [Duty.ofLoop]) with
          scene.net := w.scene.net.mapNode side fun n => { n with receiving := false } } := by
      simp only [step, found]
      rfl
    have there : ((w.step (.leave side Duty.ofLoop)).closing side)[(w.closing side).length]? =
        some Duty.ofLoop := by
      rw [begun]
      simp [putClosing]
    have here' : (w.step (.leave side Duty.ofLoop)).scene.net.node? side =
        some { n with receiving := false } := by
      rw [begun, Network.node?_mapNode_self, here]
      rfl
    -- the token and the pool, then the inbox, then the supervisor
    obtain ⟨closing, scene⟩ := run_token_sweep there here' (regular side n here).pool
    rw [Scene.pool_eq here, ← Nat.add_assoc _ 3 2, List.replicate_add, run_append]
    generalize (w.step (.leave side Duty.ofLoop)).run (List.replicate (n.endpoint.pool.size + 3) _) = u
      at closing scene ⊢
    have dropped := closing_discharge closing [.exit] (Duty.inbox.perform u.scene.net side)
    rw [List.replicate_succ, List.replicate_one, run_cons, run_cons, step_close closing,
      step_close dropped]
    have cancelled : w.scene.step (.cancel side .receiving) =
        { w.scene with net := w.scene.net.endReceiving side } := by
      simp only [Scene.step, Network.cancel, here, running, if_true]
    have stopped : u.scene = { w.scene with
        net := (w.scene.net.mapNode side fun n => { n with receiving := false }).mapNode side
          (·.mapEndpoint Endpoint.stop) } := by
      rw [scene, begun]
      rfl
    rw [cancelled]
    show { u.scene with
      net := (u.scene.net.mapInbox side Mailbox.close).mapNode side Node.superviseFinish } = _
    rw [stopped, Network.mapInbox_mapNode fun _ => rfl, Network.mapNode_mapNode,
      Network.mapNode_mapNode]
    rfl

end Overlap

end DuplexRpc

import DuplexRpc.Proofs.Network.Serving

/-! What an endpoint replies over a stream. A response is offered to the queue of the loop that writes
where a request is refused or where the handler of a request ends, and nowhere else; its frame is
handed on if it is short enough, and then it is the only one. Nothing is handed on in its place. -/

namespace DuplexRpc

open ByteStream

/-- The frame of a message, if it is short enough. -/
def Codec.carries (codec : Codec) (limit : Nat) (m : Message) : List Frame :=
  if (codec.encode m).length ≤ limit then [codec.encode m] else []

def Incident.isStep (serial : Nat) : Incident → Bool
  | .go (.task .a k) => k == serial
  | _ => false

theorem Incident.eq_of_isStep {serial : Nat} {ev : Incident} (h : ev.isStep serial = true) :
    ev = .go (.task .a serial) := by
  unfold isStep at h
  split at h
  · rw [beq_iff_eq.mp h]
  · cases h

def Incident.isAbort (serial : Nat) : Incident → Bool
  | .abort .a k => k == serial
  | _ => false

namespace Scene

variable {s : Scene} {ev : Incident} {codec : Codec} {limit : Nat}

/-- Frames are taken from the queue that the first endpoint posts to. -/
def IsOpen (s : Scene) : Prop :=
  s.net.a.endpoint.transport.box.receiverGone = false

instance decidableIsOpen (s : Scene) : Decidable s.IsOpen :=
  inferInstanceAs (Decidable (_ = _))

/-- What is offered as a task with a serial number goes on, and the frames that are handed on then. -/
def replies (s : Scene) (serial : Nat) : List Incident → List (Message × List Frame)
  | [] => []
  | ev :: events =>
    (if ev.isStep serial then (s.answers ev).map (·, s.hands ev) else []) ++
      (s.step ev).replies serial events

/-- One endpoint, whose frames have a greatest length. -/
structure Attached (s : Scene) (codec : Codec) (limit : Nat) : Prop where
  holds : s.Holds
  alone : s.net.b = none
  queue : ∃ box, s.net.a.endpoint.transport = .queue codec (some limit) box

theorem Attached.apart (h : s.Attached codec limit) : (s.net.a.tasks.map Task.serial).Nodup :=
  (h.holds .a s.net.a rfl).serials

theorem Attached.responds (h : s.Attached codec limit) (ev : Incident) :
    ∃ ms ended, s.Responds ev ms ended := by
  obtain ⟨box, queue⟩ := h.queue
  exact responds_step h.alone h.apart (fun failure => by rw [queue]; rfl) ev

theorem Attached.step (h : s.Attached codec limit) (ev : Incident) :
    (s.step ev).Attached codec limit ∧ ((s.step ev).IsOpen → s.IsOpen) := by
  obtain ⟨holds, later⟩ := h.holds.step ev
  obtain ⟨box, queue⟩ := h.queue
  obtain ⟨ms, ended, responds⟩ := h.responds ev
  have goes := responds.serves.transport
  rw [queue] at goes
  obtain ⟨box', queue', closed, -⟩ := goes.queue
  refine ⟨⟨holds, ?_, box', queue'⟩, fun open_ => ?_⟩
  · cases there : (s.step ev).net.b with
    | none => rfl
    | some m =>
      have there : (s.step ev).net.node? .b = some m := there
      obtain ⟨m', here, -⟩ := Network.Nodewise.origin later there
      exact nomatch here.symm.trans h.alone
  · rw [IsOpen, queue'] at open_
    rw [IsOpen, queue]
    cases gone : box.receiverGone with
    | false => exact gone
    | true => exact absurd (closed gone) (Bool.eq_false_iff.mp open_)

theorem Attached.run (h : s.Attached codec limit) (events : List Incident) :
    (s.run events).Attached codec limit ∧ ((s.run events).IsOpen → s.IsOpen) := by
  induction events generalizing s with
  | nil => exact ⟨h, id⟩
  | cons ev events ih =>
    obtain ⟨h', back⟩ := h.step ev
    obtain ⟨h'', back'⟩ := ih h'
    exact ⟨h'', back ∘ back'⟩

theorem attached_attach (a : Setup) (capacity : Nat) (faults : Faults) :
    Attached { net := .attach a capacity faults } a.config.codec a.frameLimit :=
  ⟨holds_start (.attach a capacity faults), rfl, {}, rfl⟩

theorem accepts_of_open {box : Mailbox} (open_ : box.receiverGone = false) (m : Message) :
    (Transport.queue codec (some limit) box).accepts m = codec.carries limit m := by
  rw [Transport.accepts, Codec.carries, open_]
  by_cases short : (codec.encode m).length ≤ limit
  · simp [short]
  · simp [short, Nat.lt_of_not_le short]

/-- While frames are taken, the answers that are short enough are handed on, or frames of other
messages. -/
theorem Attached.hands_eq (h : s.Attached codec limit) (open_ : s.IsOpen) (ev : Incident) :
    s.hands ev = (s.answers ev).flatMap (codec.carries limit) ∨
      s.answers ev = [] ∧ ∀ frame ∈ s.hands ev, ∃ m : Message, m.response? = none ∧
        frame = codec.encode m := by
  obtain ⟨box, queue⟩ := h.queue
  obtain ⟨ms, ended, responds⟩ := h.responds ev
  have goes := responds.serves.transport
  rw [queue] at goes
  obtain ⟨box', queue', -, frames⟩ := goes.queue
  have handed : s.hands ev = ms.flatMap (codec.carries limit) := by
    rw [hands, queue, queue']
    rw [IsOpen, queue] at open_
    refine frames.trans ?_
    exact congrArg ms.flatMap (funext (accepts_of_open open_))
  rw [handed]
  rcases responds.offered with rfl | ⟨none, calls⟩
  · exact .inl rfl
  · refine .inr ⟨none, fun frame there => ?_⟩
    obtain ⟨m, hm, here⟩ := List.mem_flatMap.mp there
    rw [Codec.carries] at here
    split at here
    · exact ⟨m, calls m hm, List.mem_singleton.mp here⟩
    · cases here

/-! ### The task of a handler -/

theorem answers_step {t : Task} (apart : (s.net.a.tasks.map Task.serial).Nodup)
    (mem : t ∈ s.net.a.tasks) : s.answers (.go (.task .a t.serial)) =
      ((t.ending?.map fun ending => t.role.posts ending).getD []) := by
  simp only [answers, Task.find?_serial apart mem, Option.bind_some]

/-- No task is left that has the serial number. -/
def Retired (s : Scene) (serial : Nat) : Prop :=
  serial < s.net.nextSerial ∧ ∀ t ∈ s.net.a.tasks, t.serial ≠ serial

theorem Attached.retired_step (h : s.Attached codec limit) {serial : Nat} (gone : s.Retired serial)
    (ev : Incident) : (s.step ev).Retired serial := by
  obtain ⟨n', there, turn⟩ := Network.Nodewise.node (turns_step h.holds ev)
    (show s.net.node? .a = some s.net.a from rfl)
  obtain rfl := Option.some.inj there
  obtain ⟨le, fresh⟩ := turn.fresh
  have le : s.net.nextSerial ≤ (s.step ev).net.nextSerial := le
  refine ⟨Nat.lt_of_lt_of_le gone.1 le, fun t ht same => ?_⟩
  rcases fresh t.serial (List.mem_map_of_mem ht) with old | new
  · obtain ⟨u, hu, same'⟩ := List.mem_map.mp old
    exact gone.2 u hu (same'.trans same)
  · have new : s.net.nextSerial ≤ t.serial := new
    have low := gone.1
    omega

theorem Attached.retired_run (h : s.Attached codec limit) {serial : Nat} (gone : s.Retired serial)
    (events : List Incident) : (s.run events).Retired serial ∧ s.replies serial events = [] := by
  induction events generalizing s with
  | nil => exact ⟨gone, rfl⟩
  | cons ev events ih =>
    obtain ⟨after, silent⟩ := ih (h.step ev).1 (h.retired_step gone ev)
    refine ⟨after, ?_⟩
    have none : (if ev.isStep serial then (s.answers ev).map (·, s.hands ev) else []) = [] := by
      split
      · rename_i steps
        obtain rfl := Incident.eq_of_isStep steps
        have absent : s.net.a.tasks.find? (·.serial == serial) = Option.none :=
          List.find?_eq_none.mpr fun t ht same => gone.2 t ht (beq_iff_eq.mp same)
        simp only [answers, absent, Option.bind_none, Option.getD_none, List.map_nil]
      · rfl
    rw [replies, none, silent]
    rfl

/-- What becomes of a task that is not given up: it runs on, and nothing is offered for it, or it ended
at some moment, at which its messages were offered. -/
inductive Runs (s : Scene) (t : Task) (events : List Incident) : Prop
  | on {t' : Task} (mem : t' ∈ (s.run events).net.a.tasks) (continues : t.Continues t')
      (silent : s.replies t.serial events = [])
  | ended (before after : List Incident) {t' : Task} {ending : Ending}
      (split : events = before ++ .go (.task .a t.serial) :: after) (continues : t.Continues t')
      (ends : t'.ending? = some ending)
      (offered : (s.run before).answers (.go (.task .a t.serial)) = t.role.posts ending)
      (replied : s.replies t.serial events =
        (t.role.posts ending).map (·, (s.run before).hands (.go (.task .a t.serial))))
      (gone : (s.run events).Retired t.serial)

/-- The task goes on in an incident, and nothing is offered for it. -/
theorem Attached.goesOn (h : s.Attached codec limit) {t : Task} (mem : t ∈ s.net.a.tasks)
    (kept : ev.isAbort t.serial = false) (going : ev.isStep t.serial = true → t.ending? = none) :
    (∃ t' ∈ (s.step ev).net.a.tasks, t.Continues t') ∧
      (if ev.isStep t.serial then (s.answers ev).map (·, s.hands ev) else []) = [] := by
  cases steps : ev.isStep t.serial with
  | true =>
    have still := going steps
    obtain rfl := Incident.eq_of_isStep steps
    have next : (s.step (.go (.task .a t.serial))).net = s.net.stepTask .a s.net.a t := by
      simp only [Scene.step, Network.step, Network.node?, Task.find?_serial h.apart mem]
    obtain ⟨f, e, continues, -, a, -⟩ := s.net.stepTask_eq h.alone h.apart mem still
    refine ⟨⟨f t, ?_, continues t mem⟩, ?_⟩
    · rw [next, a]
      exact List.mem_map_of_mem mem
    · rw [answers_step h.apart mem, still]
      rfl
  | false =>
    obtain ⟨ms, ended, responds⟩ := h.responds ev
    refine ⟨responds.serves.tasks t mem fun same => ?_, rfl⟩
    rcases responds.left t.serial same with abort | step
    · rw [abort, Incident.isAbort, beq_self_eq_true] at kept
      cases kept
    · rw [step, Incident.isStep, beq_self_eq_true] at steps
      cases steps

theorem Attached.later_serials (h : s.Attached codec limit) (ev : Incident) :
    s.net.nextSerial ≤ (s.step ev).net.nextSerial := by
  obtain ⟨n', -, turn⟩ := Network.Nodewise.node (turns_step h.holds ev)
    (show s.net.node? .a = some s.net.a from rfl)
  exact turn.fresh.1

theorem Attached.ends (h : s.Attached codec limit) {t : Task} (mem : t ∈ s.net.a.tasks)
    {ending : Ending} (ends : t.ending? = some ending) :
    (s.step (.go (.task .a t.serial))).Retired t.serial ∧
      s.answers (.go (.task .a t.serial)) = t.role.posts ending := by
  have below : t.serial < s.net.nextSerial :=
    (h.holds .a s.net.a rfl).below t.serial (List.mem_map_of_mem mem)
  have next : (s.step (.go (.task .a t.serial))).net = s.net.endTask .a t ending := by
    rw [← s.net.stepTask_of_ending .a s.net.a ends]
    simp only [Scene.step, Network.step, Network.node?, Task.find?_serial h.apart mem]
  refine ⟨⟨Nat.lt_of_lt_of_le below (h.later_serials _), fun u hu same => ?_⟩, ?_⟩
  · rw [next, Network.tasks_endTask] at hu
    exact bne_iff_ne.mp (List.mem_filter.mp hu).2 same
  · rw [answers_step h.apart mem, ends]
    rfl

theorem Attached.runs (h : s.Attached codec limit) {t : Task} (mem : t ∈ s.net.a.tasks)
    {events : List Incident} (kept : ∀ ev ∈ events, ev.isAbort t.serial = false) :
    s.Runs t events := by
  -- the task is another one after each step, of the same serial number and the same role
  induction events generalizing s t with
  | nil => exact .on mem (.refl t) rfl
  | cons ev events ih =>
    obtain ⟨here, kept⟩ := List.forall_mem_cons.mp kept
    obtain ⟨h', -⟩ := h.step ev
    by_cases finished : ev.isStep t.serial = true ∧ t.ending? ≠ none
    · obtain ⟨steps, some_⟩ := finished
      obtain ⟨ending, ends⟩ := Option.ne_none_iff_exists'.mp some_
      obtain rfl := Incident.eq_of_isStep steps
      obtain ⟨retired, offered⟩ := h.ends mem ends
      obtain ⟨gone, silent⟩ := h'.retired_run retired events
      refine .ended [] events rfl (.refl t) ends offered ?_ gone
      rw [replies, silent, if_pos steps, offered, List.append_nil]
      rfl
    · -- the task goes on, and what becomes of it then becomes of it
      obtain ⟨⟨t', mem', continues⟩, nothing⟩ := h.goesOn mem here fun steps => by
        cases ends : t.ending? with
        | none => rfl
        | some ending => exact absurd ⟨steps, by rw [ends]; exact nofun⟩ finished
      have serial : t'.serial = t.serial := continues.serial
      have rest := ih h' mem' (serial ▸ kept)
      cases rest with
      | on mem'' continues' silent =>
        refine .on mem'' (continues.trans continues') ?_
        rw [replies, nothing, ← serial, silent]
        rfl
      | ended before after split continues' ends offered replied gone =>
        rw [serial, continues.role] at offered replied
        rw [serial] at split gone
        refine .ended (ev :: before) after (congrArg (ev :: ·) split)
          (continues.trans continues') ends offered ?_ gone
        rw [replies, nothing, replied]
        rfl

/-! ### Requests that come in -/

/-- The request that the first endpoint takes from its inbox in an incident. -/
def takes? (s : Scene) (ev : Incident) : Option Request :=
  (s.handles? .a ev).bind fun x => (x.2.config.codec.decode x.1).toOption.bind Message.request?

theorem answers_of_handles {frame : Frame} {e : Endpoint} (taken : s.handles? .a ev = some (frame, e)) :
    s.answers ev = e.retorts frame := by
  cases ev with
  | go agent =>
    cases agent with
    | receiving side heeds =>
      cases side with
      | a => simp only [answers, taken, Option.map_some, Option.getD_some]
      | b => cases taken
    | _ => cases taken
  | _ => cases taken

theorem takes?_eq_some {r : Request} (taken : s.takes? ev = some r) : ∃ frame,
    s.handles? .a ev = some (frame, s.net.a.endpoint) ∧
      s.net.a.endpoint.config.codec.decode frame = .ok (.request r) ∧
      s.answers ev = (Message.request r).replies s.net.a.endpoint.registry.requests := by
  obtain ⟨⟨frame, e⟩, handled, read⟩ := Option.bind_eq_some_iff.mp taken
  obtain ⟨n, -, here, rfl, -⟩ := step_of_handles handled
  obtain rfl : s.net.a = n := Option.some.inj here
  obtain ⟨m, decoded, request⟩ := Option.bind_eq_some_iff.mp read
  have decoded : s.net.a.endpoint.config.codec.decode frame = .ok (.request r) := by
    cases outcome : s.net.a.endpoint.config.codec.decode frame with
    | error err =>
      rw [outcome] at decoded
      cases decoded
    | ok m' =>
      rw [outcome] at decoded
      obtain rfl := Option.some.inj decoded
      cases m' with
      | request r' => rw [Option.some.inj request]
      | _ => cases request
  refine ⟨frame, handled, decoded, ?_⟩
  rw [answers_of_handles handled, Endpoint.retorts]
  rw [Codec.decode] at decoded
  split at decoded
  · cases decoded
  · rename_i v value
    rw [value]
    simp only [Value.replies, decoded]

/-- A request that is not refused starts a task for its handler. -/
theorem Attached.starts (h : s.Attached codec limit) {r : Request} (taken : s.takes? ev = some r)
    (accepted : r.refusal? s.net.a.endpoint.registry.requests = none) :
    ∃ (handler : Handler) (t : Task), t ∈ (s.step ev).net.a.tasks ∧
      s.net.a.endpoint.registry.requestHandler? r.method = some handler ∧
      t.role = .handler (.request r.id r.method) ∧ t.stand = .going (r.job handler).script ∧
      ∀ u ∈ s.net.a.tasks, u.serial ≠ t.serial := by
  obtain ⟨frame, handled, decoded, -⟩ := takes?_eq_some taken
  obtain ⟨-, -, -, -, -, -, next⟩ := step_of_handles handled
  obtain ⟨endpoint, tasks⟩ := s.net.a_mapInbox .pop
  obtain ⟨handler, found, same⟩ := s.net.a.endpoint.handle_started accepted
  have jobs : ((s.net.mapInbox .a .pop).a.endpoint.handleFrame frame).2 =
      s.net.a.endpoint.notificationJobs r.asNotification ++ [r.job handler] := by
    rw [endpoint, Endpoint.handleFrame_of_decode decoded, same]
  have started : (s.step ev).net.a.tasks = s.net.a.tasks ++
      (Task.ofJobs (s.net.mapInbox .a .pop).nextSerial
        (s.net.a.endpoint.notificationJobs r.asNotification ++ [r.job handler])) := by
    rw [next, Network.a_atEndpoint, jobs, tasks]
  rw [Task.ofJobs_append, ← List.append_assoc] at started
  refine ⟨handler, _, started ▸ List.mem_append_right _ List.mem_cons_self, found, rfl, rfl,
    fun u hu same => ?_⟩
  have below : u.serial < s.net.nextSerial :=
    (h.holds .a s.net.a rfl).below u.serial (List.mem_map_of_mem hu)
  have serial : (s.net.mapInbox .a .pop).nextSerial = s.net.nextSerial := by
    unfold Network.mapInbox
    split <;> rfl
  rw [same, serial] at below
  simp only at below
  omega

/-- How a request is answered whose handler runs as the task with a serial number: nothing is offered
while it runs, and once it is over one response was, whose frame was handed on if it is short enough. -/
inductive Settles (s u : Scene) (carries : Message → List Frame) (r : Request) (h : Handler)
    (serial : Nat) (events : List Incident) : Prop
  | running {t : Task} (mem : t ∈ u.net.a.tasks) (same : t.serial = serial)
      (role : t.role = .handler (.request r.id r.method)) (stand : t.stand.From (r.job h).script)
      (silent : s.replies serial events = [])
  | replied {outcome : Outcome} (gone : ∀ t ∈ u.net.a.tasks, t.serial ≠ serial)
      (verdict : Verdict r (some h) outcome)
      (once : s.replies serial events =
        [(.response ⟨r.id, outcome⟩, carries (.response ⟨r.id, outcome⟩))])

/-- An endpoint over a stream, while frames are taken from the queue that it posts to. In every
incident the answers that are short enough are handed on, or else frames of requests and notifications.
A request that comes in is refused at once, or it is answered once, where the task of its handler ends
if it is not given up. In both cases the response is handed on as exactly one frame if this is short
enough; if not then nothing is, whatever the outcome. -/
theorem replies_of_request (a : Setup) (capacity : Nat) (faults : Faults)
    (before after : List Incident) (ev : Incident) :
    let t := run { net := .attach a capacity faults } before
    let u := (t.step ev).run after
    let carries := a.config.codec.carries a.frameLimit
    u.IsOpen →
      (t.hands ev = (t.answers ev).flatMap carries ∨ t.answers ev = [] ∧ ∀ frame ∈ t.hands ev,
        ∃ m : Message, m.response? = none ∧ frame = a.config.codec.encode m) ∧
      ∀ r, t.takes? ev = some r →
        let handler := t.net.a.endpoint.registry.requestHandler? r.method
        (∃ outcome, Verdict r handler outcome ∧ t.answers ev = [.response ⟨r.id, outcome⟩] ∧
          t.hands ev = carries (.response ⟨r.id, outcome⟩)) ∨
        t.answers ev = [] ∧ ∃ (h : Handler) (serial : Nat), handler = some h ∧
          (∀ x ∈ t.net.a.tasks, x.serial ≠ serial) ∧
          ((∀ x ∈ after, x.isAbort serial = false) →
            (t.step ev).Settles u carries r h serial after) := by
  intro t u carries open_
  have attached : t.Attached a.config.codec a.frameLimit :=
    ((attached_attach a capacity faults).run before).1
  obtain ⟨next, back⟩ := attached.step ev
  obtain ⟨-, back'⟩ := next.run after
  have handed := attached.hands_eq (back (back' open_)) ev
  refine ⟨handed, fun r taken => ?_⟩
  intro handler
  obtain ⟨frame, -, -, answers⟩ := takes?_eq_some taken
  cases refused : r.refusal? t.net.a.endpoint.registry.requests with
  | some err =>
    rw [Message.replies, refused] at answers
    refine .inl ⟨.error err, verdict_of_refusal refused, answers, ?_⟩
    rcases handed with handed | ⟨none, -⟩
    · rw [handed, answers]
      exact List.flatMap_singleton carries _
    · rw [answers] at none
      cases none
  | none =>
    rw [Message.replies, refused] at answers
    obtain ⟨h, x, mem, found, role, stand, fresh⟩ := attached.starts taken refused
    refine .inr ⟨answers, h, x.serial, found, fresh, fun kept => ?_⟩
    have run : x.stand.From (r.job h).script := by
      rw [stand]
      exact .start
    cases next.runs mem kept with
    | on mem' continues silent =>
      exact .running mem' continues.serial (continues.role.trans role) (continues.stand _ run) silent
    | @ended before' after' x' ending split continues ends offered replied gone =>
      subst split
      refine .replied gone.2 (verdict_of_ending (named_of_accepted refused)
        (continues.stand _ run) ends) ?_
      rw [role] at offered replied
      -- frames are taken at that moment, since they are in the end
      obtain ⟨there, -⟩ := next.run before'
      have later : u = ((t.step ev).run before').run (.go (.task .a x.serial) :: after') :=
        run_append ..
      have open' := (there.run (.go (.task .a x.serial) :: after')).2 (later ▸ open_)
      rw [replied]
      rcases there.hands_eq open' (.go (.task .a x.serial)) with handed | ⟨none, -⟩
      · rw [handed, offered]
        simp only [Role.posts, Origin.answer, List.map_cons, List.map_nil, List.flatMap_cons,
          List.flatMap_nil, List.append_nil]
        rfl
      · rw [offered] at none
        cases none

/-- An endpoint that takes requests and would have room for errors, but whose answers are too long. -/
def verbose : Setup where
  config := { maxFrameSize := 100 }
  registry := {
    requests := [("tell", fun _ _ => .done (.ok (.str (String.ofList (List.replicate 100 'x')))))] }

def tell : Request :=
  { id := .ofInt64 1, method := "tell", params := none }

/-- The far end of a stream sends a request, which is read. -/
def told : List Incident :=
  [.far (.write (framed (Codec.json.encode (.request tell)))), .go (.reading .a true)]

theorem takes?_told :
    (run { net := .attach verbose 256 {} } told).takes? (.go (.receiving .a true)) = some tell := by
  have fields : ((run { net := .attach verbose 256 {} } told).takes? (.go (.receiving .a true))).map
      (fun r => (r.id, r.method, r.params.isNone)) = some (tell.id, tell.method, true) := by
    decide +kernel
  obtain ⟨⟨id, method, params⟩, taken, same⟩ := Option.map_eq_some_iff.mp fields
  simp only [Prod.mk.injEq, Option.isNone_iff_eq_none] at same
  obtain ⟨rfl, rfl, rfl⟩ := same
  exact taken

/-- The request is handled, and its handler ends. -/
theorem replies_of_request_too_long :
    let t := run { net := .attach verbose 256 {} } told
    let u := (t.step (.go (.receiving .a true))).run [.go (.task .a 0)]
    u.IsOpen ∧ t.takes? (.go (.receiving .a true)) = some tell ∧
      ∃ (h : Handler) (serial : Nat) (outcome : Outcome), Verdict tell (some h) outcome ∧
        (t.step (.go (.receiving .a true))).replies serial [.go (.task .a 0)] =
          [(.response ⟨tell.id, outcome⟩,
            Codec.json.carries verbose.frameLimit (.response ⟨tell.id, outcome⟩))] := by
  intro t u
  have open_ : u.IsOpen := by decide +kernel
  have taken : t.takes? (.go (.receiving .a true)) = some tell := takes?_told
  have waits : (t.answers (.go (.receiving .a true))).length = 0 := by decide +kernel
  have vacant : u.net.a.tasks.isEmpty = true := by decide +kernel
  obtain ⟨-, fate⟩ := replies_of_request verbose 256 {} told [.go (.task .a 0)]
    (.go (.receiving .a true)) open_
  rcases fate tell taken with ⟨outcome, -, answered, -⟩ | ⟨-, h, serial, -, -, settles⟩
  · rw [show t.answers (.go (.receiving .a true)) = _ from answered] at waits
    cases waits
  · refine ⟨open_, taken, h, serial, ?_⟩
    cases settles (by simp [Incident.isAbort]) with
    | running mem =>
      rw [List.isEmpty_iff.mp vacant] at mem
      cases mem
    | @replied outcome _ verdict once => exact ⟨outcome, verdict, once⟩

/-- The request was handled, frames are taken, an error would be short enough, nothing can go on, and
nothing was handed on. -/
theorem long_reply_lost :
    let s : Scene := { net := .attach verbose 256 {} }
    let t := s.run told
    let u := (t.step (.go (.receiving .a true))).run [.go (.task .a 0)]
    let refusal : Message := .response ⟨tell.id, .error (.sendFailed "frame is too long: 136")⟩
    t.takes? (.go (.receiving .a true)) = some tell ∧ u.IsOpen ∧
      (Codec.json.encode refusal).length ≤ verbose.frameLimit ∧ u.net.able = [] ∧
      u.net.a.tasks.length = 0 ∧
      t.hands (.go (.receiving .a true)) = [] ∧
      ((t.step (.go (.receiving .a true))).replies 0 [.go (.task .a 0)]).map Prod.snd = [[]] ∧
      u.net.a.endpoint.transport.box.frames = [] ∧
      (u.net.pipeFrom? .a).map (·.bytes) = some [] := by
  intro s t u refusal
  refine ⟨takes?_told, ?_⟩
  decide +kernel

end Scene

end DuplexRpc

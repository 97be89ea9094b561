import DuplexRpc.Proofs.Closing.Traffic
import DuplexRpc.Proofs.Network.Lone
import DuplexRpc.Proofs.Network.Steady

/-! Handlers over a whole history. At every endpoint a message starts those that are registered by then,
and the counters tell how many notifications found no listener and how many listeners failed, whatever
else happened in the meantime. -/

namespace DuplexRpc

/-- The message that an endpoint is given. -/
def Session.Ask.message? (codec : Codec) : Session.Ask → Option Message
  | .frame bytes => (codec.decode bytes).toOption
  | .handle message => (Message.ofValue message).toOption
  | _ => none

/-- A task ends in the failure of a listener. -/
def Role.isFailure (ending : Ending) : Role → Bool
  | .handler origin => origin.isFailure ending
  | .caller => false

namespace Scene

/-! ### What happens at a side -/

/-- The message that comes in at a side. -/
def inbound? (s : Scene) (side : Side) : Incident → Option Message
  | .ask x what =>
    if x = side then (s.holder? side).bind fun n => what.message? n.endpoint.config.codec else none
  | .go agent =>
    (s.handles? side (.go agent)).bind fun x => (x.2.config.codec.decode x.1).toOption
  | _ => none

/-- The handlers that are registered at a side. -/
def enrols (s : Scene) (side : Side) : Incident → List Enrolment
  | .ask x (.register entry) =>
    if x = side then ((s.holder? side).map fun n => n.endpoint.registry.enrols entry).getD [] else []
  | _ => []

/-- The task that ends at a side. -/
def ends? (s : Scene) (side : Side) : Incident → Option (Task × Ending)
  | .go (.task x serial) =>
    if x = side then
      (s.net.node? side).bind fun n =>
        (n.tasks.find? (·.serial == serial)).bind fun t => t.ending?.map (t, ·)
    else none
  | _ => none

/-- The task that ends at a side or is given up, by its serial number. -/
def leaves? (s : Scene) (side : Side) : Incident → Option Nat
  | .abort x serial => if x = side then some serial else none
  | .go agent => (s.ends? side (.go agent)).map (·.1.serial)
  | _ => none

/-- The handlers that were registered at a side, one after the other. -/
def enrolled (s : Scene) (side : Side) : List Incident → List Enrolment
  | [] => []
  | ev :: events => s.enrols side ev ++ (s.step ev).enrolled side events

/-- The messages that came in at a side, each with all that was registered there before it. -/
def received (s : Scene) (side : Side) (roll : List Enrolment) :
    List Incident → List (Message × List Enrolment)
  | [] => []
  | ev :: events => ((s.inbound? side ev).map (·, roll)).toList ++
      (s.step ev).received side (roll ++ s.enrols side ev) events

/-- The tasks that ended at a side. -/
def ended (s : Scene) (side : Side) : List Incident → List (Task × Ending)
  | [] => []
  | ev :: events => (s.ends? side ev).toList ++ (s.step ev).ended side events

/-- The tasks of the handlers that a message starts. -/
def starting (s : Scene) (side : Side) (roll : List Enrolment) (ev : Incident) : List Task :=
  Task.ofJobs s.net.nextSerial ((s.inbound? side ev).elim [] (·.jobs roll))

/-- What an incident does to the handlers of a side. -/
structure Attends (s : Scene) (side : Side) (ev : Incident) (roll : List Enrolment) (n n' : Node) :
    Prop where
  keeps : n'.endpoint.registry.Keeps (roll ++ s.enrols side ev)
  started : ∀ t ∈ s.starting side roll ev, t ∈ n'.tasks
  runs : Task.runs n'.tasks = (Task.runs n.tasks).filter (s.leaves? side ev != some ·.1) ++
    Task.runs (s.starting side roll ev)
  unhandled : n'.endpoint.roster.unhandled = n.endpoint.roster.unhandled +
    ((s.inbound? side ev).any (·.isUnheard roll)).toNat
  failed : n'.endpoint.roster.failed = n.endpoint.roster.failed +
    ((s.ends? side ev).any fun x => x.1.role.isFailure x.2).toNat

/-- An incident does to the handlers of all sides what it should. -/
def IsAttended (s : Scene) (ev : Incident) : Prop :=
  s.net.Nodewise (s.step ev).net fun side n n' =>
    ∀ roll, n.endpoint.registry.Keeps roll → s.Attends side ev roll n n'

/-- Nothing that concerns the handlers of a side. -/
structure Silent (s : Scene) (side : Side) (ev : Incident) : Prop where
  inbound : s.inbound? side ev = none
  enrols : s.enrols side ev = []
  ends : s.ends? side ev = none
  leaves : s.leaves? side ev = none

variable {s : Scene} {side : Side} {ev : Incident} {roll : List Enrolment} {n n' : Node}

theorem filter_of_stays (stays : s.leaves? side ev = none) (runs : List (Nat × Origin)) :
    runs.filter (s.leaves? side ev != some ·.1) = runs := by
  rw [stays]
  exact List.filter_eq_self.mpr fun _ _ => rfl

theorem filter_of_leaves {serial : Nat} (leaves : s.leaves? side ev = some serial)
    (runs : List (Nat × Origin)) :
    runs.filter (s.leaves? side ev != some ·.1) = runs.filter (·.1 != serial) := by
  rw [leaves]
  refine List.filter_congr fun run _ => ?_
  rw [Bool.eq_iff_iff, bne_iff_ne, bne_iff_ne]
  exact not_congr (Option.some_inj.trans eq_comm)

/-- No message comes in. -/
theorem attends_of_none (inbound : s.inbound? side ev = none)
    (keeps : n'.endpoint.registry.Keeps (roll ++ s.enrols side ev))
    (runs : Task.runs n'.tasks = (Task.runs n.tasks).filter (s.leaves? side ev != some ·.1))
    (unhandled : n'.endpoint.roster.unhandled = n.endpoint.roster.unhandled)
    (failed : n'.endpoint.roster.failed = n.endpoint.roster.failed +
      ((s.ends? side ev).any fun x => x.1.role.isFailure x.2).toNat) :
    s.Attends side ev roll n n' where
  keeps := keeps
  started t ht := by
    rw [starting, inbound] at ht
    cases ht
  runs := by
    rw [starting, inbound, runs]
    exact (List.append_nil _).symm
  unhandled := by
    rw [inbound]
    exact unhandled
  failed := failed

theorem Silent.attends (silent : s.Silent side ev) (steady : n.Steady n')
    (kept : n.endpoint.registry.Keeps roll) : s.Attends side ev roll n n' := by
  refine attends_of_none silent.inbound ?_ ?_ (congrArg Roster.unhandled steady.roster) ?_
  · rw [silent.enrols, List.append_nil]
    exact Endpoint.keeps_of_roster steady.roster kept
  · rw [filter_of_stays silent.leaves, steady.runs]
  · rw [silent.ends, steady.roster]
    rfl

theorem isAttended_of_steady (silent : ∀ side, s.Silent side ev) (steady : s.net.Steady (s.step ev).net) :
    s.IsAttended ev :=
  Network.Nodewise.mono steady fun side _ _ _ same _ kept => (silent side).attends same kept

theorem silent_elsewhere (elsewhere : ev.side? ≠ some side) : s.Silent side ev := by
  have apart {x : Side} (there : ev.side? = some x) : x ≠ side := fun same =>
    elsewhere (same ▸ there)
  cases ev with
  | go agent =>
    cases agent with
    | receiving x heeds =>
      have idle : ¬ (Incident.go (.receiving x heeds)).IsLoop side := apart rfl
      refine ⟨?_, rfl, rfl, rfl⟩
      rw [inbound?, handles?_of_idle idle]
      rfl
    | task x serial =>
      have none : s.ends? side (.go (.task x serial)) = none := if_neg (apart rfl)
      refine ⟨rfl, rfl, none, ?_⟩
      rw [leaves?, none]
      rfl
    | _ => exact ⟨rfl, rfl, rfl, rfl⟩
  | ask x what =>
    refine ⟨if_neg (apart rfl), ?_, rfl, rfl⟩
    cases what with
    | register entry => exact if_neg (apart rfl)
    | _ => rfl
  | abort x serial => exact ⟨rfl, rfl, rfl, if_neg (apart rfl)⟩
  | _ => exact ⟨rfl, rfl, rfl, rfl⟩

/-- What concerns one side only leaves the other one alone. -/
theorem isAttended_at (side : Side) (here : ev.side? = some side)
    (nodes : s.net.Nodewise (s.step ev).net fun other n n' =>
      (other = side → ∀ roll, n.endpoint.registry.Keeps roll → s.Attends side ev roll n n') ∧
        (other ≠ side → n.Steady n')) : s.IsAttended ev := by
  refine Network.Nodewise.mono nodes fun other n n' _ both roll kept => ?_
  by_cases same : other = side
  · subst same
    exact both.1 rfl roll kept
  · have elsewhere : ev.side? ≠ some other := fun there =>
      same (Option.some.inj (there.symm.trans here))
    exact (silent_elsewhere elsewhere).attends (both.2 same) kept

/-! ### Messages that come in -/

theorem attends_of_takes {after : Endpoint × List Job}
    (takes : n.endpoint.Takes (s.inbound? side ev) after) (enrols : s.enrols side ev = [])
    (ends : s.ends? side ev = none) (leaves : s.leaves? side ev = none)
    (endpoint : n'.endpoint = after.1)
    (tasks : n'.tasks = n.tasks ++ Task.ofJobs s.net.nextSerial after.2)
    (kept : n.endpoint.registry.Keeps roll) : s.Attends side ev roll n n' := by
  obtain ⟨jobs, roster⟩ := takes roll kept
  have started : s.starting side roll ev = Task.ofJobs s.net.nextSerial after.2 := by
    rw [starting, jobs]
  rw [← endpoint] at roster
  refine ⟨?_, fun t ht => ?_, ?_, congrArg Roster.unhandled roster, ?_⟩
  · rw [enrols, List.append_nil]
    exact kept.of_same (congrArg Roster.requests roster) (congrArg Roster.notifications roster)
  · rw [tasks]
    exact List.mem_append_right _ (started ▸ ht)
  · rw [tasks, Task.runs_append, started, filter_of_stays leaves]
  · rw [ends]
    exact (congrArg Roster.failed roster :)

end Scene

namespace Network

variable {net : Network} {side : Side}

theorem nodewise_mapInbox (side : Side) (f : Mailbox → Mailbox) :
    net.Nodewise (net.mapInbox side f) fun other n n' =>
      (other = side → n'.endpoint = n.endpoint ∧ n'.tasks = n.tasks) ∧ n.Steady n' := by
  unfold mapInbox
  split
  · refine nodewise_mapNode side.other (fun n _ => ⟨fun same => ?_, ⟨rfl, rfl⟩⟩)
      fun n _ => ⟨fun _ => ⟨rfl, rfl⟩, .refl n⟩
    exact absurd same side.other_ne
  · exact nodewise_mapNode side (fun n _ => ⟨fun _ => ⟨rfl, rfl⟩, ⟨rfl, rfl⟩⟩)
      fun n _ => ⟨fun _ => ⟨rfl, rfl⟩, .refl n⟩

theorem nextSerial_mapInbox (f : Mailbox → Mailbox) :
    (net.mapInbox side f).nextSerial = net.nextSerial := by
  unfold mapInbox
  split <;> exact nextSerial_mapNode _

/-! ### Tasks that leave -/

/-- The run of a task is no longer there once it ended, and its failure is counted. -/
theorem nodewise_endTask (t : Task) (ending : Ending) :
    net.Nodewise (net.endTask side t ending) fun other n n' =>
      (other = side →
        n'.endpoint.roster = { n.endpoint.roster with
          failed := n.endpoint.roster.failed + (t.role.isFailure ending).toNat } ∧
        Task.runs n'.tasks = (Task.runs n.tasks).filter (·.1 != t.serial)) ∧
      (other ≠ side → n.Steady n') := by
  refine Nodewise.trans (R := fun other n n' => Task.runs n'.tasks = Task.runs n.tasks ∧
    n'.endpoint.roster = if other = side then { n.endpoint.roster with
      failed := n.endpoint.roster.failed + (t.role.isFailure ending).toNat } else n.endpoint.roster)
    ?_ (nodewise_mapNode_eq side _) ?_
  · cases t.role with
    | handler origin =>
      refine nodewise_mapNode side (fun n _ => ⟨rfl, ?_⟩)
        fun n _ => ⟨rfl, (if_neg side.other_ne).symm⟩
      rw [if_pos rfl]
      exact n.endpoint.roster_finish origin ending
    | caller => exact .of_same (fun other => by cases other <;> rfl) fun _ _ _ => ⟨rfl, (ite_self _).symm⟩
  · rintro other n n' n'' ⟨runs, roster⟩ rfl
    refine ⟨fun here => ?_, fun apart => ?_⟩
    · rw [if_pos here] at roster ⊢
      obtain ⟨kept, left⟩ := n'.runs_removeTask t.serial
      exact ⟨kept.trans roster, left.trans (congrArg _ runs)⟩
    · rw [if_neg apart] at roster ⊢
      exact ⟨roster, runs⟩

/-- The run of a task is no longer there once it was given up. -/
theorem nodewise_abort (serial : Nat) :
    net.Nodewise (net.abort side serial) fun other n n' =>
      (other = side → n'.endpoint.roster = n.endpoint.roster ∧
        Task.runs n'.tasks = (Task.runs n.tasks).filter (·.1 != serial)) ∧
      (other ≠ side → n.Steady n') := by
  refine nodewise_mapNode side (fun n _ => ⟨fun _ => ?_, fun apart => absurd rfl apart⟩)
    fun n _ => ⟨fun here => absurd here side.other_ne, fun _ => .refl n⟩
  beta_reduce
  split
  · obtain ⟨roster, runs⟩ := (n.mapEndpoint (·.drop _)).runs_removeTask serial
    exact ⟨roster.trans (n.endpoint.roster_drop _), runs⟩
  · exact n.runs_removeTask serial

end Network

namespace Scene

variable {s : Scene} {side : Side} {roll : List Enrolment} {n n' : Node}

theorem steady_receiving (heeds : Bool)
    (untaken : s.handles? side (.go (.receiving side heeds)) = none) :
    s.net.Steady (s.step (.go (.receiving side heeds))).net := by
  cases here : s.net.node? side with
  | none =>
    simp only [step, Network.step, here]
    exact .refl s.net
  | some n =>
    cases running : n.receiving with
    | false =>
      simp only [step, Network.step, here, running, Bool.false_eq_true, if_false]
      exact .refl s.net
    | true =>
      rw [step_receiving here running, Network.stepReceiving]
      split
      · exact Network.steady_endReceiving side
      · rename_i goesOn
        simp only
        split
        · rename_i frame rest frames
          split
          · rename_i holding
            rw [Bool.not_eq_true] at goesOn
            simp [handles?, here, running, holding, goesOn, frames, Option.filter] at untaken
          · exact (Network.steady_mapInbox side _).trans
              ((Network.steady_note side _).trans (Network.steady_endReceiving side))
        · split
          · exact (Network.steady_note side _).trans (Network.steady_endReceiving side)
          · exact .refl s.net

theorem isAttended_receiving (side : Side) (heeds : Bool) :
    s.IsAttended (.go (.receiving side heeds)) := by
  cases taken : s.handles? side (.go (.receiving side heeds)) with
  | none =>
    refine isAttended_of_steady (fun other => ?_) (steady_receiving heeds taken)
    refine ⟨?_, rfl, rfl, rfl⟩
    rw [inbound?]
    by_cases same : side = other
    · rw [← same, taken]
      rfl
    · have idle : ¬ (Incident.go (.receiving side heeds)).IsLoop other := same
      rw [handles?_of_idle idle]
      rfl
  | some x =>
    obtain ⟨frame, e⟩ := x
    obtain ⟨n, rest, here, rfl, -, -, next⟩ := step_of_handles taken
    have inbound : s.inbound? side (.go (.receiving side heeds)) =
        (n.endpoint.config.codec.decode frame).toOption := by
      rw [inbound?, taken]
      rfl
    have handled : s.net.Nodewise
        ((s.net.mapInbox side .pop).atEndpoint side (·.handleFrame frame)) fun other m m' =>
          (other = side → m'.endpoint = (m.endpoint.handleFrame frame).1 ∧
            m'.tasks = m.tasks ++ Task.ofJobs s.net.nextSerial (m.endpoint.handleFrame frame).2) ∧
          (other ≠ side → m.Steady m') := by
      refine (Network.nodewise_mapInbox side .pop).trans (Network.nodewise_atEndpoint _) ?_
      rintro other m m' m'' ⟨same, steady⟩ rfl
      refine ⟨fun there => ?_, fun apart => ?_⟩
      · obtain ⟨endpoint, tasks⟩ := same there
        rw [if_pos there, endpoint, tasks, Network.nextSerial_mapInbox]
        exact ⟨rfl, rfl⟩
      · rw [if_neg apart]
        exact steady
    refine isAttended_at side rfl ?_
    rw [next]
    refine Network.Nodewise.mono handled fun other m m' there both => ?_
    refine ⟨fun same roll kept => ?_, both.2⟩
    subst same
    obtain rfl := Option.some.inj (here.symm.trans there)
    obtain ⟨endpoint, tasks⟩ := both.1 rfl
    have takes := n.endpoint.takes_handleFrame frame
    rw [← inbound] at takes
    exact attends_of_takes takes rfl rfl rfl endpoint tasks kept

/-! ### Tasks -/

theorem ends?_eq_some {serial : Nat} {x : Task × Ending} :
    s.ends? side (.go (.task side serial)) = some x ↔
      ∃ n, s.net.node? side = some n ∧
        n.tasks.find? (·.serial == serial) = some x.1 ∧ x.1.ending? = some x.2 := by
  obtain ⟨t, ending⟩ := x
  simp only [ends?, if_true, Option.bind_eq_some_iff, Option.map_eq_some_iff, Prod.mk.injEq]
  constructor
  · rintro ⟨n, here, t', found, ending', ends, rfl, rfl⟩
    exact ⟨n, here, found, ends⟩
  · rintro ⟨n, here, found, ends⟩
    exact ⟨n, here, t, found, ending, ends, rfl, rfl⟩

theorem steady_task {serial : Nat} (goes : s.ends? side (.go (.task side serial)) = none) :
    s.net.Steady (s.step (.go (.task side serial))).net := by
  simp only [step, Network.step]
  split
  · rename_i n here
    split
    · rename_i t found
      refine Network.steady_stepTask here (Option.eq_none_iff_forall_not_mem.mpr fun ending ends => ?_)
      have finished : s.ends? side (.go (.task side serial)) = some (t, ending) :=
        ends?_eq_some.mpr ⟨n, here, found, ends⟩
      rw [goes] at finished
      cases finished
    · exact .refl s.net
  · exact .refl s.net

theorem isAttended_task (side : Side) (serial : Nat) : s.IsAttended (.go (.task side serial)) := by
  cases ends : s.ends? side (.go (.task side serial)) with
  | none =>
    refine isAttended_of_steady (fun other => ?_) (steady_task ends)
    by_cases same : side = other
    · subst same
      exact ⟨rfl, rfl, ends, by rw [leaves?, ends]; rfl⟩
    · exact silent_elsewhere fun there => same (Option.some.inj there)
  | some x =>
    obtain ⟨n, here, found, finished⟩ := ends?_eq_some.mp ends
    have leaves : s.leaves? side (.go (.task side serial)) = some x.1.serial := by
      rw [leaves?, ends]
      rfl
    have next : (s.step (.go (.task side serial))).net = s.net.endTask side x.1 x.2 := by
      simp only [step, Network.step, here, found]
      exact s.net.stepTask_of_ending side n finished
    refine isAttended_at side rfl ?_
    rw [next]
    refine Network.Nodewise.mono (Network.nodewise_endTask x.1 x.2) fun other m m' _ both => ?_
    refine ⟨fun same roll kept => ?_, both.2⟩
    subst same
    obtain ⟨roster, runs⟩ := both.1 rfl
    have enrols : s.enrols other (.go (.task other serial)) = [] := rfl
    refine attends_of_none rfl ?_ ?_ (congrArg Roster.unhandled roster :) ?_
    · rw [enrols, List.append_nil]
      exact kept.of_same (congrArg Roster.requests roster) (congrArg Roster.notifications roster)
    · rw [filter_of_leaves leaves, runs]
    · rw [ends]
      exact (congrArg Roster.failed roster :)

theorem isAttended_abort (side : Side) (serial : Nat) : s.IsAttended (.abort side serial) := by
  refine isAttended_at side rfl ?_
  refine Network.Nodewise.mono (Network.nodewise_abort serial) fun other m m' _ both => ?_
  refine ⟨fun same roll kept => ?_, both.2⟩
  subst same
  obtain ⟨roster, runs⟩ := both.1 rfl
  have enrols : s.enrols other (.abort other serial) = [] := rfl
  have leaves : s.leaves? other (.abort other serial) = some serial := if_pos rfl
  refine attends_of_none rfl ?_ ?_ (congrArg Roster.unhandled roster) (congrArg Roster.failed roster)
  · rw [enrols, List.append_nil]
    exact Endpoint.keeps_of_roster roster kept
  · rw [filter_of_leaves leaves, runs]

/-! ### What an endpoint is asked -/

theorem step_ask (found : s.holder? side = some n) (what : Session.Ask) :
    (s.step (.ask side what)).net = (Session.askNode s.net side n what).2 := by
  simp only [step, found]

theorem isAttended_takes {what : Session.Ask} {f : Endpoint → Endpoint × List Job}
    (found : s.holder? side = some n)
    (takes : n.endpoint.Takes (what.message? n.endpoint.config.codec) (f n.endpoint))
    (enrols : s.enrols side (.ask side what) = [])
    (next : (s.step (.ask side what)).net = s.net.atEndpoint side f) :
    s.IsAttended (.ask side what) := by
  obtain ⟨here, -⟩ := holder?_eq_some found
  have inbound : s.inbound? side (.ask side what) = what.message? n.endpoint.config.codec := by
    rw [inbound?, if_pos rfl, found]
    rfl
  refine isAttended_at side rfl ?_
  rw [next]
  refine Network.Nodewise.mono (Network.nodewise_atEndpoint f) fun other m m' there same => ?_
  refine ⟨fun here' roll kept => ?_, fun apart => ?_⟩
  · subst here'
    obtain rfl := Option.some.inj (here.symm.trans there)
    rw [if_pos rfl] at same
    subst same
    rw [← inbound] at takes
    exact attends_of_takes takes enrols rfl rfl rfl rfl kept
  · rw [same, if_neg apart]
    exact .refl m

theorem isAttended_register (found : s.holder? side = some n) (entry : Registry.Entry) :
    s.IsAttended (.ask side (.register entry)) := by
  obtain ⟨here, -⟩ := holder?_eq_some found
  have enrols : s.enrols side (.ask side (.register entry)) = n.endpoint.registry.enrols entry := by
    rw [Scene.enrols, if_pos rfl, found]
    rfl
  have inbound : s.inbound? side (.ask side (.register entry)) = none := by
    rw [inbound?, if_pos rfl, found]
    rfl
  refine isAttended_at side rfl ?_
  rw [step_ask found]
  refine Network.Nodewise.mono (Network.nodewise_mapNode_eq side _) fun other m m' there same => ?_
  refine ⟨fun here' roll kept => ?_, fun apart => ?_⟩
  · subst here'
    obtain rfl := Option.some.inj (here.symm.trans there)
    rw [if_pos rfl] at same
    subst same
    refine attends_of_none inbound ?_ (filter_of_stays rfl _).symm rfl rfl
    rw [enrols]
    exact kept.register entry
  · rw [same, if_neg apart]
    exact .refl m

/-- Nobody holds the endpoint. -/
theorem isAttended_unheld (nobody : s.holder? side = none) (what : Session.Ask) :
    s.IsAttended (.ask side what) := by
  refine isAttended_of_steady (fun other => ?_) ?_
  · by_cases same : side = other
    · subst same
      refine ⟨?_, ?_, rfl, rfl⟩
      · rw [inbound?, if_pos rfl, nobody]
        rfl
      · cases what with
        | register entry =>
          rw [enrols, if_pos rfl, nobody]
          rfl
        | _ => rfl
    · exact silent_elsewhere fun there => same (Option.some.inj there)
  · simp only [step, nobody]
    exact .refl s.net

/-- What brings no message and registers nothing leaves the handlers alone. -/
theorem isAttended_asked (found : s.holder? side = some n) {what : Session.Ask}
    (message : what.message? n.endpoint.config.codec = none)
    (enrols : s.enrols side (.ask side what) = [])
    (steady : s.net.Steady (Session.askNode s.net side n what).2) :
    s.IsAttended (.ask side what) := by
  refine isAttended_of_steady (fun other => ?_) (step_ask found what ▸ steady)
  by_cases same : side = other
  · subst same
    refine ⟨?_, enrols, rfl, rfl⟩
    rw [inbound?, if_pos rfl, found]
    exact message
  · exact silent_elsewhere fun there => same (Option.some.inj there)

theorem isAttended_consult (found : s.holder? side = some n) {what : Session.Ask}
    (message : what.message? n.endpoint.config.codec = none)
    (enrols : s.enrols side (.ask side what) = []) (other : ∀ entry, what ≠ .register entry)
    (consults : (Session.askNode s.net side n what).2 = s.net.mapNode side fun m =>
      { m with endpoint := (Session.consult n.endpoint what).2 }) :
    s.IsAttended (.ask side what) := by
  refine isAttended_asked found message enrols ?_
  rw [consults]
  refine Network.steady_mapNode_at fun m there => ?_
  obtain rfl := Option.some.inj ((holder?_eq_some found).1.symm.trans there)
  exact ⟨Session.roster_consult _ other, rfl⟩

theorem isAttended_ask (side : Side) (what : Session.Ask) : s.IsAttended (.ask side what) := by
  cases found : s.holder? side with
  | none => exact isAttended_unheld found what
  | some n =>
    cases what with
    | frame bytes =>
      exact isAttended_takes (f := (·.handleFrame bytes)) found (n.endpoint.takes_handleFrame bytes)
        rfl (step_ask found _)
    | handle message =>
      cases read : Message.ofValue message with
      | error err =>
        refine isAttended_asked found ?_ rfl ?_
        · rw [Session.Ask.message?, read]
          rfl
        · simp only [Session.askNode, read]
          exact .refl s.net
      | ok m =>
        refine isAttended_takes (f := (·.handle m)) found ?_ rfl ?_
        · rw [Session.Ask.message?, read]
          exact n.endpoint.takes_handle m
        · rw [step_ask found]
          simp only [Session.askNode, read]
    | register entry => exact isAttended_register found entry
    | letGo =>
      refine isAttended_asked found rfl rfl (Network.steady_mapNode side fun n => ?_)
      have released : n.Steady { n with held := false } := ⟨rfl, rfl⟩
      exact released.trans (n.steady_releaseFrom _)
    | _ => exact isAttended_consult found rfl rfl (fun _ => nofun) rfl

/-! ### Whatever happens -/

theorem isAttended_go (agent : Agent) : s.IsAttended (.go agent) := by
  cases agent with
  | receiving side heeds => exact isAttended_receiving side heeds
  | task side serial => exact isAttended_task side serial
  | sentinel side =>
    exact isAttended_of_steady (fun _ => ⟨rfl, rfl, rfl, rfl⟩) (Network.steady_sentinel side)
  | writing side heeds =>
    exact isAttended_of_steady (fun _ => ⟨rfl, rfl, rfl, rfl⟩) (Network.steady_writing side heeds)
  | reading side heeds =>
    exact isAttended_of_steady (fun _ => ⟨rfl, rfl, rfl, rfl⟩) (Network.steady_reading side heeds)
  | timer side ticket =>
    exact isAttended_of_steady (fun _ => ⟨rfl, rfl, rfl, rfl⟩) (Network.steady_timer side ticket)

/-- Whatever happens, every side attends to the messages that come in there. -/
theorem isAttended (s : Scene) (ev : Incident) : s.IsAttended ev := by
  have quietly (silent : ∀ side, s.Silent side ev) (steady : s.net.Steady (s.step ev).net) :
      s.IsAttended ev := isAttended_of_steady silent steady
  cases ev with
  | go agent => exact isAttended_go agent
  | ask side what => exact isAttended_ask side what
  | abort side serial => exact isAttended_abort side serial
  | launch side what =>
    refine quietly (fun _ => ⟨rfl, rfl, rfl, rfl⟩) ?_
    simp only [step]
    split
    · rename_i n found
      refine Network.steady_mapNode_at fun m there => ?_
      obtain rfl := Option.some.inj ((holder?_eq_some found).1.symm.trans there)
      exact ⟨n.endpoint.roster_launch s.net.clock what, rfl⟩
    · exact .refl s.net
  | run side script =>
    refine quietly (fun _ => ⟨rfl, rfl, rfl, rfl⟩) ?_
    simp only [step]
    split
    · exact Network.steady_spawn side script
    · exact .refl s.net
  | poll side ticket =>
    refine quietly (fun _ => ⟨rfl, rfl, rfl, rfl⟩) ?_
    simp only [step]
    split
    · rename_i n id here _
      split
      · rename_i polled
        have kept := n.endpoint.roster_poll (.waiting id ticket)
        rw [polled] at kept
        refine Network.steady_mapNode_at fun m there => ?_
        obtain rfl := Option.some.inj (here.symm.trans there)
        exact ⟨kept, rfl⟩
      · exact .refl s.net
    · exact .refl s.net
  | drop side ticket =>
    refine quietly (fun _ => ⟨rfl, rfl, rfl, rfl⟩) ?_
    simp only [step]
    split
    · exact Network.steady_mapNode_rfl side (fun n => n.endpoint.roster_drop _) fun _ => rfl
    · exact .refl s.net
  | openGate ticket opening =>
    exact quietly (fun _ => ⟨rfl, rfl, rfl, rfl⟩) (Network.steady_openGate ticket opening)
  | pass span =>
    exact quietly (fun _ => ⟨rfl, rfl, rfl, rfl⟩)
      (Network.steady_of_same fun side => by cases side <;> rfl)
  | cancel side loop =>
    exact quietly (fun _ => ⟨rfl, rfl, rfl, rfl⟩) (Network.steady_cancel side loop)
  | far act => exact quietly (fun _ => ⟨rfl, rfl, rfl, rfl⟩) (Network.steady_actFar act)

/-! ### Histories -/

/-- What a history comes to at a side. -/
structure HasAttended (s : Scene) (side : Side) (roll : List Enrolment) (events : List Incident)
    (n n' : Node) : Prop where
  keeps : n'.endpoint.registry.Keeps (roll ++ s.enrolled side events)
  unhandled : n'.endpoint.roster.unhandled = n.endpoint.roster.unhandled +
    (s.received side roll events).countP fun x => x.1.isUnheard x.2
  failed : n'.endpoint.roster.failed = n.endpoint.roster.failed +
    (s.ended side events).countP fun x => x.1.role.isFailure x.2

theorem countP_toList {α : Type} (p : α → Bool) (o : Option α) :
    o.toList.countP p = (o.any p).toNat := by
  cases o with
  | none => rfl
  | some x => cases here : p x <;> simp [here]

theorem hasAttended_run (s : Scene) (events : List Incident) (here : s.net.node? side = some n)
    (kept : n.endpoint.registry.Keeps roll) :
    ∃ n', (s.run events).net.node? side = some n' ∧ s.HasAttended side roll events n n' := by
  induction events generalizing s roll n with
  | nil =>
    refine ⟨n, here, ?_, rfl, rfl⟩
    rw [enrolled, List.append_nil]
    exact kept
  | cons ev events ih =>
    obtain ⟨n', here', attends⟩ := Network.Nodewise.node (s.isAttended ev) here
    have now := attends roll kept
    obtain ⟨n'', here'', later⟩ := ih (s.step ev) here' now.keeps
    refine ⟨n'', here'', ?_, ?_, ?_⟩
    · rw [enrolled, ← List.append_assoc]
      exact later.keeps
    · rw [later.unhandled, now.unhandled, received, List.countP_append, countP_toList,
        Option.any_map, Nat.add_assoc]
    · rw [later.failed, now.failed, ended, List.countP_append, countP_toList, Nat.add_assoc]

theorem counters_start {net : Network} (starts : Starts net) (here : net.node? side = some n) :
    n.endpoint.counters = {} := by
  cases starts with
  | lone a =>
    cases side with
    | a =>
      obtain rfl := Option.some.inj here
      rfl
    | b => cases here
  | connect joined =>
    rw [Network.connect] at joined
    split at joined
    · obtain rfl := Except.ok.inj joined
      cases side <;> obtain rfl := Option.some.inj here <;> rfl
    · cases joined
  | connectStream a b capacity => cases side <;> obtain rfl := Option.some.inj here <;> rfl
  | attach a capacity faults =>
    cases side with
    | a =>
      obtain rfl := Option.some.inj here
      rfl
    | b => cases here

/-- Handlers are registered at an endpoint, some of them in vain, messages come in there, and handlers
run in any order, end, fail and are given up. Whatever happened before, a message starts all who listen
to its method by then, in the order of their registration, and a request that has a method starts the
handler that was the first one registered for it: each of them once, and nothing else starts. No other
run comes or goes but the one that ends or is given up. The counters tell how many notifications came
in that nobody listened to at that time, and how many runs of listeners ended with an error or a
panic. -/
theorem message_starts_handlers {net : Network} (starts : Starts net) {n₀ : Node}
    (here : net.node? side = some n₀) (kept : n₀.endpoint.registry.Keeps roll)
    (before : List Incident) (ev : Incident) :
    let s₀ : Scene := { net }
    let s := s₀.run before
    let registered := roll ++ s₀.enrolled side before
    let started := Task.ofJobs s.net.nextSerial ((s.inbound? side ev).elim [] (·.jobs registered))
    ∃ n n', s.net.node? side = some n ∧ (s.step ev).net.node? side = some n' ∧
      (∀ t ∈ started, t ∈ n'.tasks) ∧
      Task.runs n'.tasks =
        (Task.runs n.tasks).filter (s.leaves? side ev != some ·.1) ++ Task.runs started ∧
      ((Task.runs n'.tasks).map Prod.fst).Nodup ∧
      n.endpoint.counters.unhandledNotifications =
        (s₀.received side roll before).countP (fun x => x.1.isUnheard x.2) ∧
      n.endpoint.counters.failedNotifications =
        (s₀.ended side before).countP fun x => x.1.role.isFailure x.2 := by
  intro s₀ s registered started
  obtain ⟨n, there, history⟩ := s₀.hasAttended_run before here kept
  obtain ⟨n', next, attends⟩ := Network.Nodewise.node (s.isAttended ev) there
  have now := attends registered history.keeps
  have holds := ((holds_start starts).run before).1
  have serials : (n'.tasks.map Task.serial).Nodup := ((holds.step ev).1 side n' next).serials
  have fresh := counters_start starts here
  refine ⟨n, n', there, next, now.started, now.runs, serials.sublist (Task.serials_runs _), ?_, ?_⟩
  · have zero : n₀.endpoint.roster.unhandled = 0 := congrArg Counters.unhandledNotifications fresh
    have counted := history.unhandled
    rwa [zero, Nat.zero_add] at counted
  · have zero : n₀.endpoint.roster.failed = 0 := congrArg Counters.failedNotifications fresh
    have counted := history.failed
    rwa [zero, Nat.zero_add] at counted

/-- Two listen to a method and one of them panics, a second handler for its requests comes too late, and
nobody listens to another method. -/
def busy : List Incident :=
  let told (method : String) : Value :=
    .obj [("jsonrpc", .str "2.0"), ("method", .str method)]
  [.ask .a (.register (.notification "tick" fun _ _ => .done (.ok .null))),
    .ask .a (.register (.request "tick" fun _ _ => .done (.ok (.ofInt64 1)))),
    .ask .a (.register (.notification "tick" fun _ _ => .panic .other)),
    .ask .a (.register (.request "tick" fun _ _ => .done (.ok (.ofInt64 2)))),
    .ask .a (.handle (told "tick")), .ask .a (.handle (told "tock")), .go (.task .a 1)]

/-- A request comes in before the listener that does not panic has run. -/
theorem message_starts_handlers_busy :
    let s : Scene := run { net := .lone {} } busy
    let ev : Incident := .ask .a (.handle (.obj
      [("jsonrpc", .str "2.0"), ("id", .ofInt64 7), ("method", .str "tick")]))
    ∃ n n', s.net.node? .a = some n ∧ (s.step ev).net.node? .a = some n' ∧
      Task.runs n'.tasks = [(0, .notification "tick"), (2, .notification "tick"),
        (3, .notification "tick"), (4, .request (.ofInt64 7) "tick")] ∧
      n.endpoint.counters.unhandledNotifications = 1 ∧
      n.endpoint.counters.failedNotifications = 1 := by
  intro s ev
  have present : (Network.lone {}).node? .a = some (Network.lone {}).a := rfl
  obtain ⟨n, n', here, next, -, runs, -, unhandled, failed⟩ :=
    message_starts_handlers (.lone {}) present Registry.keeps_empty busy ev
  refine ⟨n, n', here, next, runs.trans ?_, unhandled.trans ?_, failed.trans ?_⟩
  · rw [← Option.some.inj here]
    decide +kernel
  · decide +kernel
  · decide +kernel

end Scene

end DuplexRpc

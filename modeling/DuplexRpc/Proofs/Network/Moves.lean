import DuplexRpc.Proofs.Network.Happening

/-! One act of a live network. `Moves` says all that an act does: something happens at its side, the
other side stays, and the frames that a side sends come to the other side in their order. -/

namespace DuplexRpc.Network

variable {codec : Codec} {net net' : Network} {side : Side}

/-- The network goes on to `net'` while `trace` is seen of `side`. -/
structure Moves (codec : Codec) (net net' : Network) (side : Side) (trace : Trace) : Prop where
  live : net'.Live codec
  numbered : net'.Numbered
  here : ∃ e, Happening net.clock (net.endpoint side) (net.at_ side).tasks trace e
      (net'.at_ side).tasks ∧
    net'.endpoint side = e.via (net'.endpoint side).transport
  there : net'.endpoint side.other =
    (net.endpoint side.other).via (net'.endpoint side.other).transport
  advance : Task.Advance (net.at_ side.other).tasks (net'.at_ side.other).tasks
  sent : net'.leaving side = net.leaving side ++ trace.posted.map codec.encode
  took : ∃ frames, net.leaving side.other = frames ++ net'.leaving side.other ∧
    frames.map codec.decode = trace.handled.map .ok

theorem Live.isOpen (live : net.Live codec) (side : Side) :
    (net.endpoint side).transport.IsOpen := by
  obtain ⟨frames, sent⟩ := (live.node side).transport
  have same : (net.endpoint side).transport = .queue codec none { frames } := sent
  rw [same]
  exact ⟨rfl, rfl⟩

/-- A change of the network by a deed, and what happens at its side. -/
theorem Live.moves_of_change (live : net.Live codec) {d : Deed} {popped serial : Nat}
    {tasks : List Task} (change : net.Change net' side d popped tasks serial) {ms : List Message}
    {e' : Endpoint} {trace : Trace} (does : d.Does net.clock (net.endpoint side) ms e')
    (happening : Happening net.clock (net.endpoint side) (net.at_ side).tasks trace e' tasks)
    (posted : trace.posted = ms)
    (took : ((net.leaving side.other).take popped).map codec.decode = trace.handled.map .ok)
    (numbered : net'.Numbered) : Moves codec net net' side trace := by
  have node := live.node side
  have far := live.node side.other
  obtain ⟨frames, sent⟩ := node.transport
  obtain ⟨farFrames, farSent⟩ := far.transport
  obtain ⟨farTasks, advance, there⟩ := change.there
  have ran := does.run (live.isOpen side)
  have transport : (net.endpoint side).transport = .queue codec none { frames } := sent
  have farTransport : (net.endpoint side.other).transport =
    .queue codec none { frames := farFrames } := farSent
  rw [transport, Transport.pushAll_queue] at ran
  have here := change.here
  rw [ran] at here
  rw [farTransport] at there
  have endpoint : net'.endpoint side =
      e'.via (.queue codec none { frames := frames ++ ms.map codec.encode }) := by
    rw [Network.endpoint, here]
  have farEndpoint : net'.endpoint side.other = (net.endpoint side.other).via
      (.queue codec none { frames := farFrames.drop popped }) := by
    rw [Network.endpoint, there]
    rfl
  have leaving : net.leaving side.other = farFrames := by
    rw [Network.leaving, farTransport]
    rfl
  refine ⟨⟨change.link.trans live.link, change.paired, fun side' => ?_⟩, numbered, ?_, ?_, ?_, ?_, ?_⟩
  · rcases side.eq_or_eq_other side' with rfl | rfl
    · rw [here]
      exact ⟨node.held, node.receiving, node.writer, node.reader,
        happening.keeps.2.1.trans node.stopped,
        (congrArg EndpointConfig.codec happening.keeps.1).trans node.format, _, rfl⟩
    · rw [there]
      exact ⟨far.held, far.receiving, far.writer, far.reader, far.stopped, far.format, _, rfl⟩
  · refine ⟨e', ?_, ?_⟩
    · rw [here]
      exact happening
    · rw [endpoint]
      rfl
  · rw [farEndpoint]
    rfl
  · rw [there]
    exact advance
  · rw [Network.leaving, Network.leaving, endpoint, transport, posted]
    rfl
  · refine ⟨farFrames.take popped, ?_, ?_⟩
    · rw [Network.leaving, Network.leaving, farEndpoint, farTransport]
      exact (List.take_append_drop popped farFrames).symm
    · rw [← took, leaving]

theorem Numbered.append (numbered : net.Numbered) {new : List Task} {serial : Nat}
    (least : ∀ t ∈ new, net.nextSerial ≤ t.serial) (most : ∀ t ∈ new, t.serial < serial)
    (le : net.nextSerial ≤ serial) (nodup : (new.map Task.serial).Nodup) (side : Side) :
    (∀ t ∈ (net.at_ side).tasks ++ new, t.serial < serial) ∧
      (((net.at_ side).tasks ++ new).map Task.serial).Nodup := by
  constructor
  · intro t ht
    rcases List.mem_append.mp ht with old | new
    · exact Nat.lt_of_lt_of_le (numbered.below side t old) le
    · exact most t new
  · rw [List.map_append, List.nodup_append]
    refine ⟨numbered.apart side, nodup, ?_⟩
    intro i hi j hj same
    obtain ⟨t, ht, rfl⟩ := List.mem_map.mp hi
    obtain ⟨u, hu, rfl⟩ := List.mem_map.mp hj
    have := numbered.below side t ht
    have := least u hu
    omega

theorem Numbered.filter (numbered : net.Numbered) (p : Task → Bool) (side : Side) :
    (∀ t ∈ (net.at_ side).tasks.filter p, t.serial < net.nextSerial) ∧
      (((net.at_ side).tasks.filter p).map Task.serial).Nodup :=
  ⟨fun t ht => numbered.below side t (List.mem_filter.mp ht).1,
    (numbered.apart side).sublist (List.filter_sublist.map _)⟩

theorem Numbered.advance (numbered : net.Numbered) {tasks : List Task} {serial : Nat}
    (advance : Task.Advance (net.at_ side).tasks tasks)
    (le : net.nextSerial ≤ serial) :
    (∀ t ∈ tasks, t.serial < serial) ∧ (tasks.map Task.serial).Nodup := by
  have serials := Task.serials_of_tags advance.tags
  constructor
  · intro t ht
    have mem : t.serial ∈ (net.at_ side).tasks.map Task.serial := serials ▸ List.mem_map_of_mem ht
    obtain ⟨u, hu, same⟩ := List.mem_map.mp mem
    have := numbered.below side u hu
    omega
  · rw [serials]
    exact numbered.apart side

theorem Numbered.goes (numbered : net.Numbered) {d : Deed} {popped serial : Nat} {tasks : List Task}
    (turn : net.Turn side d popped tasks serial)
    (change : net.Change net' side d popped tasks serial) : net'.Numbered := by
  have here : net.nextSerial ≤ serial ∧ (∀ t ∈ tasks, t.serial < serial) ∧
      (tasks.map Task.serial).Nodup := by
    cases turn with
    | call d tasks serial isCall advance le => exact ⟨le, numbered.advance advance le⟩
    | spawn script =>
      refine ⟨Nat.le_succ _, numbered.append ?_ ?_ (Nat.le_succ _) ?_ side⟩
      · intro t ht
        exact Nat.le_of_eq (congrArg Task.serial (List.mem_singleton.mp ht)).symm
      · intro t ht
        rw [List.mem_singleton.mp ht]
        exact Nat.lt_succ_self _
      · exact List.nodup_cons.mpr ⟨List.not_mem_nil, List.nodup_nil⟩
    | frame frame rest first =>
      refine ⟨Nat.le_add_right _ _, numbered.append ?_ ?_ (Nat.le_add_right _ _) ?_ side⟩
      · intro t ht
        exact (Task.mem_ofJobs ht).1
      · intro t ht
        exact (Task.mem_ofJobs ht).2.1
      · exact Task.nodup_ofJobs _ _
    | finish t origin ending mem role ends => exact ⟨Nat.le_refl _, numbered.filter _ side⟩
    | returned t ending mem role ends => exact ⟨Nat.le_refl _, numbered.filter _ side⟩
  obtain ⟨far, advance, there⟩ := change.there
  have both : ∀ side', (∀ t ∈ (net'.at_ side').tasks, t.serial < net'.nextSerial) ∧
      ((net'.at_ side').tasks.map Task.serial).Nodup := by
    intro side'
    rw [change.serial]
    rcases side.eq_or_eq_other side' with rfl | rfl
    · rw [change.here]
      exact here.2
    · rw [there]
      exact numbered.advance advance here.1
  exact ⟨fun side' => (both side').1, fun side' => (both side').2⟩

theorem seen_append {d : Deed} {new : List Task}
    (after : (net'.at_ side).tasks = (net.at_ side).tasks ++ new)
    (least : ∀ t ∈ new, net.nextSerial ≤ t.serial) (numbered : net.Numbered) :
    net.seen net' side d =
      { net.seen net' side d with started := new, ended := [] } := by
  have fresh : ∀ t ∈ new, t.serial ∉ (net.at_ side).tasks.map Task.serial := by
    intro t ht mem
    obtain ⟨u, hu, same⟩ := List.mem_map.mp mem
    have := numbered.below side u hu
    have := least t ht
    omega
  simp only [seen, after, Task.freshFrom_append fresh, Task.freshFrom_left, List.filterMap_nil]

theorem seen_filter {d : Deed} {t : Task} {ending : Ending} (mem : t ∈ (net.at_ side).tasks)
    (ends : t.ending? = some ending)
    (after : (net'.at_ side).tasks = (net.at_ side).tasks.filter (·.serial != t.serial))
    (numbered : net.Numbered) :
    net.seen net' side d =
      { net.seen net' side d with started := [], ended := [(t, ending)] } := by
  have gone := (Task.perm_filter mem (numbered.apart side)).2
  have kept : Task.freshFrom (net.at_ side).tasks (net'.at_ side).tasks = [] := by
    refine Task.freshFrom_eq_nil fun u hu => List.mem_map_of_mem ?_
    rw [after] at hu
    exact (List.mem_filter.mp hu).1
  have one : [t].filterMap (fun t => t.ending?.map (t, ·)) = [(t, ending)] := by
    simp only [List.filterMap_cons, ends, Option.map_some, List.filterMap_nil]
  rw [← after] at gone
  simp only [seen, kept, gone, one]

/-- By a deed the network moves, and what is seen of it is what happened. -/
theorem Live.moves (live : net.Live codec) (numbered : net.Numbered)
    (readable : ∀ frame ∈ net.leaving side.other, ∃ m, codec.decode frame = .ok m) {d : Deed}
    (goes : net.Goes net' side d) : Moves codec net net' side (net.seen net' side d) := by
  obtain ⟨popped, tasks, serial, turn, change⟩ := goes
  have numbered' := numbered.goes turn change
  have after : (net'.at_ side).tasks = tasks := by
    rw [change.here]
  have stopped : (net.endpoint side).isStopped = false := (live.node side).stopped
  have format : (net.endpoint side).config.codec = codec := (live.node side).format
  have idle : Deed.nothing.Does net.clock (net.endpoint side) [] (net.endpoint side) :=
    fun _ _ => rfl
  cases turn with
  | call d tasks serial isCall advance le =>
    obtain ⟨ms, e', does, happening⟩ := isCall.does stopped advance net.clock
    have seen : net.seen net' side d =
        { posted := ms, taken := d.taken (net.endpoint side), dropped := d.dropped } := by
      simp only [Network.seen, does.posts, isCall.handled, after,
        Task.freshFrom_of_tags advance.tags, Task.freshFrom_of_tags advance.tags.symm]
      rfl
    rw [seen]
    exact live.moves_of_change change does happening rfl rfl numbered'
  | spawn script =>
    rw [seen_append after (fun t ht => Nat.le_of_eq
      (congrArg Task.serial (List.mem_singleton.mp ht)).symm) numbered]
    refine live.moves_of_change change idle (.spawned [] _ (.refl _) ?_ ?_) rfl rfl numbered'
    · exact fun _ hm => absurd hm List.not_mem_nil
    · intro t ht
      rw [List.mem_singleton.mp ht]
      rfl
  | frame frame rest first =>
    obtain ⟨m, decoded⟩ := readable frame (first ▸ List.mem_cons_self)
    obtain ⟨ms, e', does, happening⟩ := Deed.handle_does (format ▸ decoded) (live.isOpen side)
      (net.at_ side).tasks net.nextSerial net.clock
    have handled : (Deed.handle frame).handled codec = [m] := by
      rw [Deed.handled, decoded]
      rfl
    rw [seen_append after (fun t ht => (Task.mem_ofJobs ht).1) numbered]
    simp only [seen, does.posts, format, handled]
    refine live.moves_of_change change does happening rfl ?_ numbered'
    rw [first, List.take_succ_cons, List.take_zero]
    exact congrArg (fun r => [r]) decoded
  | finish t origin ending mem role ends =>
    obtain ⟨e', quiet, does⟩ := (net.endpoint side).finish_via origin ending
    have perm := (Task.perm_filter mem (numbered.apart side)).1
    have posts : (Deed.finish origin ending).posts net.clock (net.endpoint side) =
      origin.answer ending := Deed.Does.posts does
    have happening : Happening net.clock (net.endpoint side) (net.at_ side).tasks _ e' _ :=
      .ended quiet perm ends
    rw [seen_filter mem ends after numbered]
    simp only [seen, posts]
    rw [role] at happening
    exact live.moves_of_change change does happening rfl rfl numbered'
  | returned t ending mem role ends =>
    have perm := (Task.perm_filter mem (numbered.apart side)).1
    have happening : Happening net.clock (net.endpoint side) (net.at_ side).tasks _
        (net.endpoint side) _ := .ended (.refl _) perm ends
    rw [seen_filter mem ends after numbered]
    rw [role] at happening
    exact live.moves_of_change change idle happening rfl rfl numbered'

end DuplexRpc.Network

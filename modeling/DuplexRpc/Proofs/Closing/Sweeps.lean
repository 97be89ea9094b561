import DuplexRpc.Proofs.Closing.Ending
import DuplexRpc.Proofs.Closing.Late
import DuplexRpc.Proofs.Network.Conservation

/-! What becomes of the calls at an endpoint that is closed while calls overlap. Whoever sweeps its
pool fails all that waited there when the sweep began, and so does who closes it at once. A request
that was let in before and is entered after the sweep is failed by nobody. Where no request was on its
way in, an endpoint that was stopped and swept is over for good. -/

namespace DuplexRpc

namespace Duty

variable {duty : Duty} {duties rest : List Duty} {id : Id}

/-- The request of an id is still to be failed. -/
def IsDue (duties : List Duty) (id : Id) : Prop :=
  Duty.list ∈ duties ∨ ∃ ids, Duty.fail ids ∈ duties ∧ id ∈ ids

theorem IsDue.append (due : IsDue rest id) (duties : List Duty) : IsDue (duties ++ rest) id := by
  rcases due with list | ⟨ids, fail, mem⟩
  · exact .inl (List.mem_append_right _ list)
  · exact .inr ⟨ids, List.mem_append_right _ fail, mem⟩

theorem isDue_cons :
    IsDue (duty :: rest) id ↔ duty = .list ∨ (∃ ids, duty = .fail ids ∧ id ∈ ids) ∨ IsDue rest id := by
  simp only [IsDue, List.mem_cons, or_and_right, exists_or]
  constructor
  · rintro ((rfl | list) | ⟨ids, rfl, mem⟩ | due)
    · exact .inl rfl
    · exact .inr (.inr (.inl list))
    · exact .inr (.inl ⟨ids, rfl, mem⟩)
    · exact .inr (.inr (.inr due))
  · rintro (rfl | ⟨ids, rfl, mem⟩ | list | due)
    · exact .inl (.inl rfl)
    · exact .inr (.inl ⟨ids, rfl, mem⟩)
    · exact .inl (.inr list)
    · exact .inr (.inr due)

end Duty

namespace Scene

variable {s : Scene} {side : Side}

theorem outcome?_eq_pool (s : Scene) (side : Side) (c : Nat × Id) :
    s.outcome? side c = (s.pool side).outcome? c.1 := by
  cases here : s.net.node? side with
  | none =>
    rw [outcome?, pool, here]
    rfl
  | some n =>
    rw [outcome?_eq here, pool_eq here]
    rfl

theorem pool_mapInbox (s : Scene) (f : Mailbox → Mailbox) (at_ side : Side) :
    pool { s with net := s.net.mapInbox at_ f } side = s.pool side := by
  rw [Network.mapInbox]
  split
  · refine s.pool_mapNode (fun n => ?_) at_.other side
    rfl
  · refine s.pool_mapNode (fun n => ?_) at_ side
    rfl

end Scene

namespace Overlap

variable {w u : Overlap} {side : Side} {part : Part} {n : Node} {k : Nat}

/-! ### Those who close -/

/-- Some begin to close, and one of them gets further at a time. -/
theorem closing_cases (w : Overlap) (part : Part) (side : Side) :
    (w.step part).closing side = w.closing side ∨
      (∃ duties, (w.step part).closing side = w.closing side ++ [duties]) ∨
      ∃ k duty rest, part = .close side k ∧ (w.closing side)[k]? = some (duty :: rest) ∧
        w.step part = w.discharge side k rest (duty.perform w.scene.net side) := by
  cases part with
  | whole ev =>
    simp only [step]
    split <;> exact .inl rfl
  | call at_ what =>
    simp only [step]
    split <;> exact .inl rfl
  | callFrom at_ serial =>
    simp only [step]
    split
    · split <;> exact .inl rfl
    · exact .inl rfl
  | advance at_ k =>
    simp only [step]
    split
    · split <;> exact .inl rfl
    · exact .inl rfl
  | stop at_ =>
    simp only [step]
    split
    · exact (append_at w.closing at_ side _).imp_right fun added => .inl ⟨Duty.ofStop, added⟩
    · exact .inl rfl
  | leave at_ duties =>
    simp only [step]
    split
    · split
      · exact (append_at w.closing at_ side _).imp_right fun added => .inl ⟨duties, added⟩
      · exact .inl rfl
    · exact .inl rfl
  | close at_ k =>
    cases there : (w.closing at_)[k]? with
    | none => exact .inl (by rw [step_close_of_none there])
    | some duties =>
      cases duties with
      | nil => exact .inl (by simp only [step, there])
      | cons duty rest =>
        have further := step_close there
        by_cases same : side = at_
        · subst same
          exact .inr (.inr ⟨k, duty, rest, rfl, there, further⟩)
        · rw [further]
          exact .inl (if_neg same)

/-! ### Pools -/

theorem Regular.pool (h : w.Regular) (side : Side) : (w.scene.pool side).Sound := by
  cases here : w.scene.net.node? side with
  | none =>
    rw [Scene.pool, here]
    exact PendingPool.sound_empty
  | some n =>
    rw [Scene.pool_eq here]
    exact (h side n here).pool

theorem Ages.pool {u : Overlap} (ages : w.Ages u) (side : Side) :
    (w.scene.pool side).nextTicket ≤ (u.scene.pool side).nextTicket ∧
      ∀ p ∈ (u.scene.pool side).entries,
        p ∈ (w.scene.pool side).entries ∨ (w.scene.pool side).nextTicket ≤ p.ticket := by
  cases there : u.scene.net.node? side with
  | none =>
    cases here : w.scene.net.node? side with
    | none =>
      rw [Scene.pool, Scene.pool, here, there]
      exact ⟨Nat.le_refl _, fun _ => .inl⟩
    | some n =>
      obtain ⟨n', there', -⟩ := Network.Nodewise.node ages here
      rw [there] at there'
      cases there'
  | some n' =>
    obtain ⟨n, here, aged⟩ := Network.Nodewise.origin ages there
    rw [Scene.pool_eq here, Scene.pool_eq there]
    exact ⟨aged.tickets, aged.entries⟩

theorem pool_fail (w : Overlap) (side : Side) (k : Nat) (id : Id) (ids : List Id) (rest : List Duty) :
    (w.discharge side k rest (Duty.perform w.scene.net side (.fail (id :: ids)))).scene.pool side =
      ((w.scene.pool side).finish id (.error .interrupted)).2 := by
  simp only [discharge, Duty.perform, Scene.pool, Network.node?_mapNode_self]
  cases w.scene.net.node? side <;> rfl

/-- A duty leaves the pool as it is, but where it fails a request. -/
theorem pool_discharge (w : Overlap) (side : Side) (k : Nat) {duty : Duty}
    (other : ∀ id ids, duty ≠ .fail (id :: ids)) (rest : List Duty) :
    (w.discharge side k rest (duty.perform w.scene.net side)).scene.pool side =
      w.scene.pool side := by
  cases duty with
  | token => exact w.scene.pool_mapNode (f := Node.requestStop) (fun _ => rfl) side side
  | exit => exact w.scene.pool_mapNode (f := Node.superviseFinish) (fun _ => rfl) side side
  | list => rfl
  | inbox => exact Scene.pool_mapInbox ..
  | fail ids =>
    cases ids with
    | nil => rfl
    | cons id ids => exact absurd rfl (other id ids)

theorem pool_discharge_other (w : Overlap) (side : Side) (k : Nat) (duty : Duty)
    (rest : List Duty) :
    (w.discharge side k rest (duty.perform w.scene.net side)).scene.pool side.other =
      w.scene.pool side.other := by
  cases duty with
  | inbox => exact Scene.pool_mapInbox ..
  | list => rfl
  | token | exit =>
    simp only [discharge, Duty.perform, Scene.pool, Network.node?_mapNode_other]
  | fail ids =>
    cases ids with
    | nil => rfl
    | cons id ids =>
      simp only [discharge, Duty.perform, Scene.pool, Network.node?_mapNode_other]

/-! ### Sweeps through a pool -/

/-- Who closes at a place is to collect the ids of the requests that wait at the endpoint. -/
def IsToSweep (w : Overlap) (side : Side) (k : Nat) : Prop :=
  ∃ n duties, w.scene.net.node? side = some n ∧ (w.closing side)[k]? = some duties ∧
    Duty.list ∈ duties

/-- Who closes at a place has no request to fail any more. -/
def HasSwept (w : Overlap) (side : Side) (k : Nat) : Prop :=
  ∃ duties, (w.closing side)[k]? = some duties ∧ ∀ duty ∈ duties, duty.isSweep = false

/-- Who closes at a place is to fail the requests that wait, but for those since a ticket. -/
def Sweeps (w : Overlap) (side : Side) (k ticket : Nat) : Prop :=
  ∃ duties, (w.closing side)[k]? = some duties ∧
    ∀ p ∈ (w.scene.pool side).entries, p.ticket < ticket → Duty.IsDue duties p.id

variable {ticket : Nat}

theorem IsToSweep.sweeps (toSweep : w.IsToSweep side k) (ticket : Nat) : w.Sweeps side k ticket := by
  obtain ⟨-, duties, -, there, list⟩ := toSweep
  exact ⟨duties, there, fun _ _ _ => .inl list⟩

theorem Sweeps.gone (sweeps : w.Sweeps side k ticket) (swept : w.HasSwept side k) :
    ∀ p ∈ (w.scene.pool side).entries, ticket ≤ p.ticket := by
  intro p mem
  obtain ⟨duties, there, due⟩ := sweeps
  obtain ⟨duties', there', through⟩ := swept
  obtain rfl := Option.some.inj (there.symm.trans there')
  refine Nat.le_of_not_lt fun old => ?_
  rcases due p mem old with list | ⟨ids, fail, -⟩
  · cases through _ list
  · cases through _ fail

/-- What is due stays due until it is done. -/
theorem isDue_discharge (sound : (w.scene.pool side).Sound) {duty : Duty} {rest : List Duty}
    {p : PendingRequest}
    (mem : p ∈ ((w.discharge side k rest (duty.perform w.scene.net side)).scene.pool side).entries)
    (due : p ∈ (w.scene.pool side).entries → Duty.IsDue (duty :: rest) p.id) :
    Duty.IsDue ((duty.perform w.scene.net side).1 ++ rest) p.id := by
  cases duty with
  | token | inbox | exit =>
    rw [w.pool_discharge side k (by simp)] at mem
    exact (by simpa [Duty.isDue_cons] using due mem : Duty.IsDue rest p.id).append _
  | list =>
    rw [w.pool_discharge side k (by simp)] at mem
    cases here : w.scene.net.node? side with
    | none =>
      rw [Scene.pool, here] at mem
      cases mem
    | some n =>
      rw [Scene.pool_eq here] at mem
      refine .inr ⟨_, List.mem_append_left _ List.mem_cons_self, ?_⟩
      rw [here, Option.map_some, Option.getD_some]
      exact List.mem_map_of_mem mem
  | fail ids =>
    cases ids with
    | nil =>
      rw [w.pool_discharge side k (by simp)] at mem
      exact (by simpa [Duty.isDue_cons] using due mem : Duty.IsDue rest p.id).append _
    | cons id ids =>
      rw [pool_fail] at mem
      obtain ⟨old, other⟩ := sound.mem_finish mem
      have differs : p.id ≠ id := by
        rintro rfl
        rw [Id.same_refl] at other
        cases other
      simpa [Duty.perform, Duty.isDue_cons, differs] using due old

theorem Sweeps.step (h : w.Regular) (early : ticket ≤ (w.scene.pool side).nextTicket)
    (sweeps : w.Sweeps side k ticket) (part : Part) : (w.step part).Sweeps side k ticket := by
  obtain ⟨duties, there, due⟩ := sweeps
  obtain ⟨inside, -⟩ := List.getElem?_eq_some_iff.mp there
  have old (p : PendingRequest) (mem : p ∈ ((w.step part).scene.pool side).entries)
      (before : p.ticket < ticket) : p ∈ (w.scene.pool side).entries := by
    rcases ((h.step part).2.pool side).2 p mem with old | new
    · exact old
    · omega
  rcases w.closing_cases part side with same | ⟨more, begun⟩ |
    ⟨k', duty, rest, rfl, there', further⟩
  · exact ⟨duties, same ▸ there, fun p mem before => due p (old p mem before) before⟩
  · refine ⟨duties, ?_, fun p mem before => due p (old p mem before) before⟩
    rw [begun, List.getElem?_append_left inside]
    exact there
  · by_cases same : k' = k
    · subst same
      obtain rfl := Option.some.inj (there.symm.trans there')
      rw [further]
      refine ⟨_, closing_discharge there rest _, fun p mem before => ?_⟩
      exact isDue_discharge (h.pool side) mem fun old => due p old before
    · refine ⟨duties, ?_, fun p mem before => due p (old p mem before) before⟩
      rw [further]
      simp only [discharge, putClosing, if_true, List.getElem?_set_ne same]
      exact there

theorem Sweeps.run (h : w.Regular) (early : ticket ≤ (w.scene.pool side).nextTicket)
    (sweeps : w.Sweeps side k ticket) (parts : List Part) : (w.run parts).Sweeps side k ticket := by
  induction parts generalizing w with
  | nil => exact sweeps
  | cons part parts ih =>
    obtain ⟨h', ages⟩ := h.step part
    exact ih h' (Nat.le_trans early (ages.pool side).1) (sweeps.step h early part)

/-! ### Ends at once -/

/-- The loop that handles frames runs for the endpoint of a side. -/
def IsReceiving (w : Overlap) (side : Side) : Prop :=
  (w.scene.net.node? side).any (·.receiving) = true

/-- An endpoint is closed at once: a holder stops it, or the loop that handles its frames ends. -/
inductive EndsAtOnce (w : Overlap) (ev : Incident) (side : Side) : Prop
  | stop (asked : ev = .ask side .stop) (held : (w.scene.holder? side).isSome = true)
  | loop (running : w.IsReceiving side) (ended : ¬ (w.step (.whole ev)).IsReceiving side)

theorem making_whole (w : Overlap) (ev : Incident) : (w.step (.whole ev)).making = w.making := by
  simp only [step]
  split <;> rfl

/-- Who closes an endpoint at once stops it, and interrupts all that waits there. -/
theorem Regular.closed_at_once (h : w.Regular) {ev : Incident} (ends : w.EndsAtOnce ev side) :
    (w.step (.whole ev)).IsStopped side ∧
      (w.step (.whole ev)).scene.pool side = (w.scene.pool side).failAll .interrupted := by
  cases ends with
  | stop asked held =>
    subst asked
    obtain ⟨n, found⟩ := Option.isSome_iff_exists.mp held
    obtain ⟨here, -⟩ := Scene.holder?_eq_some found
    have here' : (w.step (.whole (.ask side .stop))).scene.net.node? side =
        some { n with endpoint := n.endpoint.stop } := by
      simp only [Overlap.step, Incident.task?, Option.any_none, Scene.step, found]
      exact (Network.node?_mapNode_self ..).trans (congrArg (Option.map _) here)
    exact ⟨isStopped_iff.mpr ⟨_, here', rfl⟩, by rw [Scene.pool_eq here', Scene.pool_eq here]; rfl⟩
  | loop running ended =>
    have whole : w.step (.whole ev) = { w with scene := w.scene.step ev } := by
      rw [Overlap.step] at ended ⊢
      split
      · rename_i busy
        rw [if_pos busy] at ended
        exact absurd running ended
      · rfl
    rw [whole] at ended ⊢
    obtain ⟨n, here, running⟩ := (Option.any_eq_true ..).mp running
    obtain ⟨n', here', turn⟩ := Network.Nodewise.node (Scene.Regular.turns_step h ev) here
    have idle : n'.receiving = false :=
      Bool.eq_false_iff.mpr fun again => ended ((Option.any_eq_true ..).mpr ⟨n', here', again⟩)
    obtain ⟨stopped, -, pool⟩ := turn.interrupted running idle
    exact ⟨isStopped_iff.mpr ⟨n', here', stopped⟩,
      (Scene.pool_eq here').trans (pool.trans (by rw [Scene.pool_eq here]; rfl))⟩

/-! ### Outcomes -/

variable {c : Nat × Id} {o : Outcome} {parts : List Part}

/-- A part belongs to one who closes an endpoint, or closes that of a side at once. -/
inductive Closes (w : Overlap) (side : Side) : Part → Prop
  | duty (at_ : Side) (k : Nat) : Closes w side (.close at_ k)
  | atOnce {ev : Incident} (ends : w.EndsAtOnce ev side) : Closes w side (.whole ev)

/-- How a call came to its outcome. -/
inductive Settles (w : Overlap) (parts : List Part) (side : Side) (c : Nat × Id) (o : Outcome) :
    Prop
  /-- It was there already. -/
  | before (there : w.scene.outcome? side c = some o)
  /-- It came with a part. Who closes interrupts the calls that it fails. -/
  | during (earlier : List Part) (part : Part) (later : List Part)
      (split : parts = earlier ++ part :: later)
      (waits : (w.run earlier).scene.outcome? side c = none)
      (there : (w.run (earlier ++ [part])).scene.outcome? side c = some o)
      (closing : (w.run earlier).Closes side part → o = .error .interrupted)

theorem mem_calls (here : w.scene.net.node? side = some n) (held : c ∈ w.scene.calls side) :
    c ∈ (w.stance side n).calls := by
  rw [Scene.calls, here, Option.map_some, Option.getD_some] at held
  rcases List.mem_append.mp held with caller | task
  · exact List.mem_append_left _ (List.mem_append_left _ caller)
  · exact List.mem_append_right _ task

theorem Ages.outcome (ages : w.Ages u) {n' : Node} (here : w.scene.net.node? side = some n)
    (here' : u.scene.net.node? side = some n') (held : c ∈ (u.stance side n').calls)
    (old : c.1 < (w.scene.pool side).nextTicket) :
    c ∈ (w.stance side n).calls ∧
      ∀ o, w.scene.outcome? side c = some o → u.scene.outcome? side c = some o := by
  obtain ⟨m, there, aged⟩ := Network.Nodewise.origin ages here'
  obtain rfl := Option.some.inj (here.symm.trans there)
  rw [Scene.pool_eq here] at old
  obtain ⟨held, keeps⟩ := aged.calls c held old
  refine ⟨held, fun o => ?_⟩
  rw [Scene.outcome?_eq_pool, Scene.outcome?_eq_pool, Scene.pool_eq here, Scene.pool_eq here']
  exact keeps.outcome o

/-- Who closes interrupts the calls that it fails. -/
theorem Regular.outcome_of_closes (h : w.Regular) (closes : w.Closes side part)
    (waits : w.scene.outcome? side c = none)
    (there : (w.step part).scene.outcome? side c = some o) : o = .error .interrupted := by
  rw [Scene.outcome?_eq_pool] at waits there
  have changed (pool : PendingPool) (is : (w.step part).scene.pool side = pool) :
      pool.outcome? c.1 = some o := is ▸ there
  have same (is : (w.step part).scene.pool side = w.scene.pool side) : o = .error .interrupted := by
    have again := changed _ is
    rw [waits] at again
    cases again
  cases closes with
  | atOnce ends =>
    exact PendingPool.outcome_of_settled ((h.pool side).slot_failAll _ _) waits
      (changed _ (h.closed_at_once ends).2)
  | duty at_ k =>
    cases closing : (w.closing at_)[k]? with
    | none => exact same (by rw [step_close_of_none closing])
    | some duties =>
      cases duties with
      | nil => exact same (by simp only [Overlap.step, closing])
      | cons duty rest =>
        rw [step_close closing] at same changed
        rcases Side.eq_or_eq_other at_ side with rfl | rfl
        · by_cases fails : ∃ id ids, duty = .fail (id :: ids)
          · obtain ⟨id, ids, rfl⟩ := fails
            exact PendingPool.outcome?_finish waits (changed _ (w.pool_fail ..))
          · exact same (w.pool_discharge side k (by simpa using fails) rest)
        · exact same (w.pool_discharge_other at_ k duty rest)

/-- A call that is older than `w` came to its outcome in one of these ways. -/
theorem Regular.settles (h : w.Regular) (here : w.scene.net.node? side = some n)
    (old : c.1 < (w.scene.pool side).nextTicket) (held : c ∈ (w.run parts).scene.calls side)
    (there : (w.run parts).scene.outcome? side c = some o) : w.Settles parts side c o := by
  induction parts generalizing w n with
  | nil => exact .before there
  | cons part parts ih =>
    obtain ⟨h', ages⟩ := h.step part
    obtain ⟨n', here', -⟩ := Network.Nodewise.node ages here
    have later := (h'.run parts).2
    obtain ⟨n'', here'', -⟩ := Network.Nodewise.node later here'
    have old' := Nat.lt_of_lt_of_le old (ages.pool side).1
    have held' := (later.outcome here' here'' (mem_calls here'' held) old').1
    cases ih h' here' old' held there with
    | during earlier part' later split waits there closing =>
      exact .during (part :: earlier) part' later (congrArg (part :: ·) split) waits there closing
    | before there' =>
      cases waits : w.scene.outcome? side c with
      | some o' =>
        have same := (ages.outcome here here' held' old).2 o' waits
        rw [there'] at same
        exact .before (waits.trans same.symm)
      | none =>
        exact .during [] part parts rfl waits there' fun closes =>
          h.outcome_of_closes closes waits there'

theorem Regular.outcome?_isSome (h : w.Regular) (here : w.scene.net.node? side = some n)
    (held : c ∈ w.scene.calls side) (gone : ∀ p ∈ (w.scene.pool side).entries, p.ticket ≠ c.1) :
    ∃ o, w.scene.outcome? side c = some o := by
  rw [Scene.pool_eq here] at gone
  rw [Scene.outcome?_eq_pool, Scene.pool_eq here]
  have regular := h side n here
  exact Option.isSome_iff_exists.mp
    (regular.pool.outcome?_isSome gone (regular.slot c (mem_calls here held)))

/-! ### Ends -/

/-- All that waited at an endpoint is gone after some parts, and who still holds a call of that time
finds its outcome. -/
structure Clears (w : Overlap) (parts : List Part) (side : Side) : Prop where
  entries : ∀ p ∈ ((w.run parts).scene.pool side).entries,
    (w.scene.pool side).nextTicket ≤ p.ticket
  calls : ∀ c ∈ (w.run parts).scene.calls side, c.1 < (w.scene.pool side).nextTicket →
    ∃ o, (w.run parts).scene.outcome? side c = some o ∧ w.Settles parts side c o

/-- An endpoint is stopped after some parts, nothing waits there, and every call that is held has its
outcome. -/
structure Finishes (w : Overlap) (parts : List Part) (side : Side) : Prop where
  past : (w.run parts).scene.IsOver side
  calls : ∀ c ∈ (w.run parts).scene.calls side,
    ∃ o, (w.run parts).scene.outcome? side c = some o ∧ w.Settles parts side c o

/-- What is gone at some time stays so. -/
theorem Regular.clears (h : w.Regular) (here : w.scene.net.node? side = some n) {between : List Part}
    (gone : ∀ p ∈ ((w.run between).scene.pool side).entries,
      (w.scene.pool side).nextTicket ≤ p.ticket) (after : List Part) :
    w.Clears (between ++ after) side := by
  obtain ⟨h', ages⟩ := h.run between
  have later := (h'.run after).2
  have cleared (p : PendingRequest) (mem : p ∈ ((w.run (between ++ after)).scene.pool side).entries) :
      (w.scene.pool side).nextTicket ≤ p.ticket := by
    rw [run_append] at mem
    rcases (later.pool side).2 p mem with old | new
    · exact gone p old
    · exact Nat.le_trans (ages.pool side).1 new
  refine ⟨cleared, fun c held old => ?_⟩
  obtain ⟨h'', aged⟩ := h.run (between ++ after)
  obtain ⟨n', here', -⟩ := Network.Nodewise.node aged here
  obtain ⟨o, there⟩ := h''.outcome?_isSome here' held fun p mem same => by
    have late := cleared p mem
    omega
  exact ⟨o, there, h.settles here old held there⟩

/-- Where nothing was entered since, all is gone. -/
theorem Regular.finishes (h : w.Regular) (clears : w.Clears parts side)
    (stopped : (w.run parts).IsStopped side)
    (closed : ((w.run parts).scene.pool side).nextTicket = (w.scene.pool side).nextTicket) :
    w.Finishes parts side := by
  have h' := (h.run parts).1
  have empty : ((w.run parts).scene.pool side).entries = [] := by
    refine List.eq_nil_iff_forall_not_mem.mpr fun p mem => ?_
    have early := (h'.pool side).below p mem
    have late := clears.entries p mem
    omega
  obtain ⟨n, here, token⟩ := isStopped_iff.mp stopped
  have regular := h' side n here
  rw [Scene.pool_eq here] at closed empty
  refine ⟨Scene.isOver_of_sound here regular.pool token empty, fun c held => ?_⟩
  have issued := regular.pool.lt_of_hasSlot (regular.slot c (mem_calls here held))
  exact clears.calls c held (closed ▸ issued)

theorem Regular.clears_of_sweep (h : w.Regular) (toSweep : w.IsToSweep side k) {between : List Part}
    (swept : (w.run between).HasSwept side k) (after : List Part) :
    w.Clears (between ++ after) side := by
  have gone := ((toSweep.sweeps _).run h (Nat.le_refl _) between).gone swept
  obtain ⟨n, -, here, -⟩ := toSweep
  exact h.clears here gone after

theorem Regular.clears_at_once (h : w.Regular) {ev : Incident} (ends : w.EndsAtOnce ev side)
    (after : List Part) : w.Clears (.whole ev :: after) side := by
  obtain ⟨stopped, pool⟩ := h.closed_at_once ends
  obtain ⟨n', here', -⟩ := isStopped_iff.mp stopped
  obtain ⟨n, here, -⟩ := Network.Nodewise.origin (h.step (.whole ev)).2 here'
  have gone : ∀ p ∈ ((w.run [.whole ev]).scene.pool side).entries,
      (w.scene.pool side).nextTicket ≤ p.ticket := by
    intro p mem
    have mem : p ∈ ((w.step (.whole ev)).scene.pool side).entries := mem
    rw [pool, (h.pool side).entries_failAll] at mem
    cases mem
  exact h.clears here gone after

/-- An endpoint that is closed at once where nobody was past the test is over. -/
theorem Regular.finishes_at_once (h : w.Regular) {ev : Incident} (ends : w.EndsAtOnce ev side)
    (none : ∀ j, ¬ w.Admits side j) (after : List Part) : w.Finishes (.whole ev :: after) side := by
  obtain ⟨stopped, pool⟩ := h.closed_at_once ends
  have shuts := (h.step (.whole ev)).1.shuts_run stopped after
  have still : ∀ j, ¬ (w.step (.whole ev)).Admits side j := by
    simp only [Admits, making_whole]
    exact none
  refine h.finishes (h.clears_at_once ends after) shuts.stopped ((shuts.closed still).trans ?_)
  rw [pool, PendingPool.nextTicket_failAll]

/-- However calls, stops and the ends of loops overlap: an endpoint whose token is cancelled refuses
every request at its test, without an id, an entry, a timer or a message, and what is entered there
after that is the request of a call that had passed the test before. Who sweeps its pool leaves nothing
behind that was there when the sweep began, for good, and who still holds a call of that time finds its
outcome; the same holds of who closes it at once. If nobody was past the test when the sweep began, with
the token cancelled, or when the endpoint was closed at once, the pool is empty for good and every call
that is held has its outcome. -/
theorem closed_for_good {net : Network} (starts : Scene.Starts net)
    (before between after : List Part) (side : Side) (k : Nat) (ev : Incident) :
    let w := run { scene := { net } } before
    let u := w.run (between ++ after)
    (w.IsStopped side → w.Shuts u side ∧
      ∃ n, u.scene.net.node? side = some n ∧ n.endpoint.Refuses) ∧
    (w.IsToSweep side k → (w.run between).HasSwept side k → w.Clears (between ++ after) side ∧
      (w.IsStopped side → (∀ j, ¬ w.Admits side j) → w.Finishes (between ++ after) side)) ∧
    (w.EndsAtOnce ev side → w.Clears (.whole ev :: after) side ∧
      ((∀ j, ¬ w.Admits side j) → w.Finishes (.whole ev :: after) side)) := by
  intro w u
  have h : w.Regular := ((regular_start starts).run before).1
  refine ⟨fun stopped => ?_, fun toSweep swept => ?_, fun ends => ?_⟩
  · have shuts := h.shuts_run stopped (between ++ after)
    obtain ⟨n, here, token⟩ := isStopped_iff.mp shuts.stopped
    exact ⟨shuts, n, here, Endpoint.refuses_of_isStopped token⟩
  · have clears := h.clears_of_sweep toSweep swept after
    refine ⟨clears, fun stopped none => ?_⟩
    have shuts := h.shuts_run stopped (between ++ after)
    exact h.finishes clears shuts.stopped (shuts.closed none)
  · exact ⟨h.clears_at_once ends after, fun none => h.finishes_at_once ends none after⟩

/-- Two endpoints over queues, each with a handler that gives its parameters back. -/
def mirrors : Network :=
  { a := Course.mirror.queueNode, b := some Course.mirror.queueNode, link := .queues }

theorem starts_mirrors : Scene.Starts mirrors :=
  .connect (a := Course.mirror) (b := Course.mirror) rfl

/-- One request is answered and one has its entry when the token is cancelled. -/
def halfAnswered : List Part :=
  [.whole (.launch .a (.plain "mirror" none none "Value")), .whole (.go (.receiving .b true)),
    .whole (.go (.task .b 0)), .whole (.go (.receiving .a true)),
    .call .a (.plain "mirror" none (some ⟨1⟩) "Value")] ++ List.replicate 4 (.advance .a 0) ++
    [.stop .a, .close .a 0]

/-- A call is refused and the one before is posted while the pool is swept. An answer that comes after
it changes nothing. Instead of the sweep the loop for frames may end at once. -/
theorem closed_for_good_half_answered :
    let w := run { scene := { net := mirrors } } halfAnswered
    let between : List Part :=
      [.call .a (.plain "mirror" none none "Value"), .close .a 0, .advance .a 1, .advance .a 0,
        .advance .a 1, .close .a 0, .close .a 0]
    let after : List Part :=
      [.whole (.go (.receiving .b true)), .whole (.go (.task .b 1)),
        .whole (.go (.receiving .a true)), .whole (.pass 1)]
    let ev : Incident := .cancel .a .receiving
    let u := w.run (between ++ after)
    w.IsStopped .a ∧ (∀ j, ¬ w.Admits .a j) ∧ w.IsToSweep .a 0 ∧ (w.run between).HasSwept .a 0 ∧
      w.Finishes (between ++ after) .a ∧ u.scene.calls .a = [(1, .ofInt64 1), (0, .ofInt64 0)] ∧
      u.scene.outcome? .a (1, .ofInt64 1) = some (.error .interrupted) ∧
      (∃ n, u.scene.net.node? .a = some n ∧ n.endpoint.Refuses) ∧
      w.EndsAtOnce ev .a ∧ w.Finishes (.whole ev :: after) .a := by
  intro w between after ev u
  obtain ⟨refuses, sweep, atOnce⟩ :=
    closed_for_good starts_mirrors halfAnswered between after .a 0 ev
  have stopped : w.IsStopped .a := by
    have token : (w.scene.net.node? .a).any Node.isStopped = true := by decide +kernel
    exact token
  have none : ∀ j, ¬ w.Admits .a j := by
    rintro j ⟨m, there, admitted⟩
    have others : (w.making .a).all (fun m => !m.stage.isAdmitted) = true := by decide +kernel
    simpa [admitted] using List.all_eq_true.mp others m (List.mem_of_getElem? there)
  have toSweep : w.IsToSweep .a 0 :=
    ⟨w.scene.net.a, [.list], rfl, by decide +kernel, List.mem_cons_self⟩
  have swept : (w.run between).HasSwept .a 0 := ⟨[], by decide +kernel, by simp⟩
  have calls : u.scene.calls .a = [(1, .ofInt64 1), (0, .ofInt64 0)] := by decide +kernel
  obtain ⟨o, there, is⟩ : ∃ o, u.scene.outcome? .a (1, .ofInt64 1) = some o ∧
      o.isInterrupted = true := (Option.any_eq_true ..).mp (by decide +kernel)
  have ends : w.EndsAtOnce ev .a := by
    have running : (w.scene.net.node? .a).any (·.receiving) = true := by decide +kernel
    have ended : ((w.step (.whole ev)).scene.net.node? .a).any (·.receiving) = false := by
      decide +kernel
    exact .loop running (Bool.eq_false_iff.mp ended)
  exact ⟨stopped, none, toSweep, swept, (sweep toSweep swept).2 stopped none, calls,
    Outcome.eq_interrupted is ▸ there, (refuses stopped).2, ends, (atOnce ends).2 none⟩

/-- A call passed the test when the endpoint is stopped. Its loop for frames ends too. -/
def overtaken : List Part :=
  [.call .a (.plain "mirror" none none "Value"), .advance .a 0, .advance .a 0, .stop .a] ++
    List.replicate 3 (.close .a 0) ++ .leave .a Duty.ofLoop :: List.replicate 5 (.close .a 1)

/-- The call is entered and posted after `stop` returned and the loop is gone. Nobody fails it, its
answer finds nobody, and it waits where nothing can go on any more. -/
theorem overtaken_call_waits :
    let w := run { scene := { net := mirrors } } overtaken
    let u := w.run (List.replicate 3 (.advance .a 0) ++ [.whole (.go (.sentinel .a)),
      .whole (.go (.receiving .b true)), .whole (.go (.task .b 0))])
    w.IsStopped .a ∧ w.closing .a = [[], []] ∧
      ((w.scene.net.node? .a).any (·.receiving)) = false ∧ (w.scene.pool .a).entries = [] ∧
      (u.scene.pool .a).size = 1 ∧ u.scene.calls .a = [(0, .ofInt64 0)] ∧
      u.scene.outcome? .a (0, .ofInt64 0) = none ∧ u.scene.net.able = [] := by
  intro w u
  have stopped : (w.scene.net.node? .a).any Node.isStopped = true := by decide +kernel
  have swept : (w.scene.pool .a).entries = [] := List.isEmpty_iff.mp (by decide +kernel)
  have waits : u.scene.outcome? .a (0, .ofInt64 0) = none :=
    Option.isNone_iff_eq_none.mp (by decide +kernel)
  have idle : u.scene.net.able = [] := List.isEmpty_iff.mp (by decide +kernel)
  exact ⟨stopped, by decide +kernel, by decide +kernel, swept, by decide +kernel, by decide +kernel,
    waits, idle⟩

end Overlap

end DuplexRpc

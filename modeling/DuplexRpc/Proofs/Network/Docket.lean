import DuplexRpc.Proofs.Network.Lone

/-! What a lone endpoint answers. A docket is kept of every request that comes in and of the responses
posted for it, whatever else goes on and in whatever order the handlers end. -/

namespace DuplexRpc

open Network

/-- The outcome that a request has to be answered with, given the handler of its method. -/
structure Verdict (r : Request) (handler : Option Handler) (outcome : Outcome) : Prop where
  unnamed : r.method = "" → ∃ e, outcome = .error e ∧ e.kind = .invalidRequest
  unhandled : r.method ≠ "" → handler = none → ∃ e, outcome = .error e ∧ e.kind = .methodNotFound
  misfit : ∀ h, r.method ≠ "" → handler = some h →
    h.Misfits { method := r.method, id := some r.id } r.params →
      ∃ e, outcome = .error e ∧ e.kind = .invalidParams
  /-- The handler came to an end, which gives the outcome. -/
  handled : ∀ h, r.method ≠ "" → handler = some h →
    ∃ last, (h { method := r.method, id := some r.id } r.params).Leads last ∧ last.Gives outcome

/-- A request that came in: the handler that its method had then, the serial number of the task that
was started for it, and what was posted for it. -/
structure Inquiry where
  request : Request
  handler : Option Handler
  serial : Option Nat := none
  answers : List Response := []

/-- A lone endpoint, and the requests that came in so far. -/
structure Docket where
  net : Network
  inquiries : List Inquiry := []

variable {r : Request} {outcome : Outcome} {net net' : Network} {answers : List Response}
  {kept new : List Task} {q : Inquiry} {d : Docket}

/-! ### Outcomes -/

theorem verdict_of_refusal {handlers : List (String × Handler)} {err : RpcError}
    (h : r.refusal? handlers = some err) :
    Verdict r (Fields.get? r.method handlers) (.error err) := by
  rw [Request.refusal?] at h
  split at h
  · rename_i empty
    have unnamed : r.method = "" := String.isEmpty_iff.mp empty
    cases h
    exact ⟨fun _ => ⟨_, rfl, rfl⟩, fun named => absurd unnamed named,
      fun _ named => absurd unnamed named, fun _ named => absurd unnamed named⟩
  · rename_i named
    rw [String.isEmpty_iff] at named
    split at h
    · rename_i absent
      cases h
      rw [absent]
      refine ⟨fun unnamed => absurd unnamed named, fun _ _ => ⟨_, rfl, rfl⟩, ?_, ?_⟩
      · intro h _ same
        cases same
      · intro h _ same
        cases same
    · cases h

theorem named_of_accepted {handlers : List (String × Handler)} (h : r.refusal? handlers = none) :
    r.method ≠ "" := by
  rw [Request.refusal?] at h
  split at h
  · cases h
  · rename_i named
    rwa [String.isEmpty_iff] at named

/-- The end of the task that runs the handler of a request gives the outcome. -/
theorem verdict_of_ending {h : Handler} {t : Task} {ending : Ending} (named : r.method ≠ "")
    (run : t.stand.From (r.job h).script) (ends : t.ending? = some ending) :
    Verdict r (some h) ending.toOutcome := by
  have final : ∃ last, (r.job h).script.Leads last ∧ last.Gives ending.toOutcome := by
    unfold Task.ending? at ends
    split at ends
    · rename_i outcome stand
      rw [stand] at run
      cases ends
      exact ⟨_, run, Script.gives_done outcome⟩
    · rename_i payload stand
      rw [stand] at run
      cases ends
      exact ⟨_, run, Script.gives_panic payload⟩
    · cases ends
  obtain ⟨last, leads, gives⟩ := final
  refine ⟨fun unnamed => absurd unnamed named, fun _ absent => (nomatch absent), ?_, ?_⟩
  · intro h' _ same misfits
    obtain rfl := Option.some.inj same
    exact misfits.outcome leads gives
  · intro h' _ same
    obtain rfl := Option.some.inj same
    exact ⟨last, leads, gives⟩

namespace Inquiry

/-- Responses were posted as the task went on. -/
def hear (serial : Nat) (answers : List Response) (q : Inquiry) : Inquiry :=
  if q.serial = some serial then { q with answers := q.answers ++ answers } else q

/-- The handler has not ended, and nothing was posted. -/
structure Running (q : Inquiry) (net : Network) : Prop where
  silent : q.answers = []
  named : q.request.method ≠ ""
  runs : ∃ t ∈ net.a.tasks, q.serial = some t.serial ∧
    t.role = .handler (.request q.request.id q.request.method) ∧
    ∃ h, q.handler = some h ∧ t.stand.From (q.request.job h).script

/-- One response was posted, with the id of the request, and no task is left that could post more. -/
structure Settled (q : Inquiry) (net : Network) : Prop where
  gone : ∀ t ∈ net.a.tasks, q.serial ≠ some t.serial
  answered : ∃ outcome, q.answers = [⟨q.request.id, outcome⟩] ∧
    Verdict q.request q.handler outcome

theorem hear_nil (serial : Nat) (q : Inquiry) : q.hear serial [] = q := by
  unfold hear
  split
  · rw [List.append_nil]
  · rfl

theorem serial_hear (serial : Nat) (answers : List Response) (q : Inquiry) :
    (q.hear serial answers).serial = q.serial := by
  unfold hear
  split <;> rfl

theorem request_hear (serial : Nat) (answers : List Response) (q : Inquiry) :
    (q.hear serial answers).request = q.request := by
  unfold hear
  split <;> rfl

theorem hear_of_ne {serial : Nat} (other : q.serial ≠ some serial) : q.hear serial answers = q :=
  if_neg other

/-- The handler still runs, since its task goes on. -/
theorem Running.shifts (running : q.Running net) (shifts : net.Shifts answers kept new net')
    (stays : ∀ t ∈ net.a.tasks, q.serial = some t.serial → t ∈ kept) : q.Running net' := by
  obtain ⟨t, mem, serial, role, h, found, stand⟩ := running.runs
  obtain ⟨t', mem', continues⟩ := shifts.exists_continues (stays t mem serial)
  refine ⟨running.silent, running.named, t', mem', ?_, ?_, h, found, continues.stand _ stand⟩
  · rw [continues.serial, serial]
  · rw [continues.role, role]

/-- No task that starts later has the serial number of a task that is over. -/
theorem Settled.shifts (settled : q.Settled net) (shifts : net.Shifts answers kept new net')
    (below : ∀ n ∈ q.serial, n < net.nextSerial) : q.Settled net' := by
  refine ⟨?_, settled.answered⟩
  intro t' ht' same
  rcases shifts.continues_or_new ht' with ⟨t, ht, continues⟩ | fresh
  · rw [continues.serial] at same
    exact settled.gone t (shifts.sub.subset ht) same
  · have low := below _ same
    have high := (shifts.fresh t' fresh).1
    omega

/-- The task of a running handler ends. -/
theorem Running.ends (running : q.Running net) (lone : net.Lone) {t : Task} {ending : Ending}
    (mem : t ∈ net.a.tasks) (same : q.serial = some t.serial) (ends : t.ending? = some ending) :
    q.hear t.serial (t.role.answers ending) =
        { q with answers := [⟨q.request.id, ending.toOutcome⟩] } ∧
      Verdict q.request q.handler ending.toOutcome := by
  obtain ⟨u, there, serial, role, h, found, stand⟩ := running.runs
  obtain rfl := Task.eq_of_serial lone.apart mem there (Option.some.inj (same.symm.trans serial))
  refine ⟨?_, ?_⟩
  · rw [hear, if_pos same, role, running.silent]
    rfl
  · rw [found]
    exact verdict_of_ending running.named stand ends

end Inquiry

namespace Docket

/-- The task that was started for a request. -/
def started? (before after : List Task) (r : Request) : Option Task :=
  (Task.freshFrom before after).find? (·.role == .handler (.request r.id r.method))

/-- Something happens. What is posted while a request comes in, or while a task goes on, is put down to
that request or to the request that the task was started for. -/
def step (d : Docket) (ev : Event) : Docket :=
  let net := d.net.event ev
  let answers := net.responses.drop d.net.responses.length
  match ev with
  | .message (.request r) =>
    { net
      inquiries := d.inquiries ++ [{
        request := r
        handler := d.net.a.endpoint.registry.requestHandler? r.method
        serial := (started? d.net.a.tasks net.a.tasks r).map Task.serial
        answers }] }
  | .act (.go (.task .a serial)) => { net, inquiries := d.inquiries.map (·.hear serial answers) }
  | _ => { d with net }

def run (d : Docket) (events : List Event) : Docket :=
  events.foldl step d

/-! ### The invariant -/

/-- Whatever was posted was posted for one of the requests that came in, each of which waits for its
handler or was answered. -/
structure Holds (d : Docket) : Prop where
  lone : d.net.Lone
  posted : d.net.responses.Perm (d.inquiries.flatMap Inquiry.answers)
  apart : (d.inquiries.filterMap Inquiry.serial).Nodup
  below : ∀ q ∈ d.inquiries, ∀ n ∈ q.serial, n < d.net.nextSerial
  owned : ∀ t ∈ d.net.a.tasks, t.role.requestId? ≠ none → ∃ q ∈ d.inquiries, q.serial = some t.serial
  each : ∀ q ∈ d.inquiries, q.Running d.net ∨ q.Settled d.net

/-- All tasks go on, and requests come in. -/
theorem Holds.grow (holds : d.Holds) (entered : List Inquiry)
    (shifts : d.net.Shifts (entered.flatMap Inquiry.answers) d.net.a.tasks new net')
    (apart : (entered.filterMap Inquiry.serial).Nodup)
    (fresh : ∀ q ∈ entered, ∀ n ∈ q.serial, d.net.nextSerial ≤ n ∧ n < net'.nextSerial)
    (owned : ∀ t ∈ new, t.role.requestId? ≠ none → ∃ q ∈ entered, q.serial = some t.serial)
    (each : ∀ q ∈ entered, q.Running net' ∨ q.Settled net') :
    Holds { net := net', inquiries := d.inquiries ++ entered } where
  lone := shifts.lone holds.lone
  posted := by
    rw [shifts.responses holds.lone, List.flatMap_append]
    exact holds.posted.append_right _
  apart := by
    rw [List.filterMap_append, List.nodup_append]
    refine ⟨holds.apart, apart, ?_⟩
    intro n hn k hk same
    obtain ⟨q, hq, serial⟩ := List.mem_filterMap.mp hn
    obtain ⟨q', hq', serial'⟩ := List.mem_filterMap.mp hk
    have low := holds.below q hq n serial
    have high := (fresh q' hq' k serial').1
    omega
  below := by
    intro q hq n hn
    rcases List.mem_append.mp hq with old | new
    · exact Nat.lt_of_lt_of_le (holds.below q old n hn) shifts.serial
    · exact (fresh q new n hn).2
  owned := by
    intro t' ht' request
    rcases shifts.continues_or_new ht' with ⟨t, ht, continues⟩ | new
    · rw [continues.role] at request
      obtain ⟨q, hq, serial⟩ := holds.owned t ht request
      exact ⟨q, List.mem_append_left _ hq, by rw [serial, continues.serial]⟩
    · obtain ⟨q, hq, serial⟩ := owned t' new request
      exact ⟨q, List.mem_append_right _ hq, serial⟩
  each := by
    intro q hq
    rcases List.mem_append.mp hq with old | new
    · rcases holds.each q old with running | settled
      · exact Or.inl (running.shifts shifts fun t ht _ => ht)
      · exact Or.inr (settled.shifts shifts (holds.below q old))
    · exact each q new

theorem Holds.quiet (holds : d.Holds) (shifts : d.net.Shifts [] d.net.a.tasks new net')
    (others : ∀ t ∈ new, t.role.requestId? = none) : Holds { d with net := net' } := by
  have grown := holds.grow [] shifts List.nodup_nil
    (fun _ hq => absurd hq List.not_mem_nil) (fun t ht request => absurd (others t ht) request)
    (fun _ hq => absurd hq List.not_mem_nil)
  rwa [List.append_nil] at grown

theorem Holds.enter (holds : d.Holds) {q : Inquiry}
    (shifts : d.net.Shifts q.answers d.net.a.tasks new net')
    (fresh : ∀ n ∈ q.serial, d.net.nextSerial ≤ n ∧ n < net'.nextSerial)
    (owned : ∀ t ∈ new, t.role.requestId? ≠ none → q.serial = some t.serial)
    (state : q.Running net' ∨ q.Settled net') :
    Holds { net := net', inquiries := d.inquiries ++ [q] } := by
  have only : [q].flatMap Inquiry.answers = q.answers := by simp
  refine holds.grow [q] (only.symm ▸ shifts) ?_ ?_ ?_ ?_
  · cases serial : q.serial with
    | none =>
      rw [List.filterMap_cons_none serial]
      exact List.nodup_nil
    | some n =>
      rw [List.filterMap_cons_some serial]
      exact List.pairwise_singleton _ n
  · intro x hx
    obtain rfl := List.mem_singleton.mp hx
    exact fresh
  · intro t ht request
    exact ⟨q, List.mem_singleton_self q, owned t ht request⟩
  · intro x hx
    obtain rfl := List.mem_singleton.mp hx
    exact state

theorem map_hear_of_ne {inquiries : List Inquiry} {serial : Nat}
    (others : ∀ q ∈ inquiries, q.serial ≠ some serial) :
    inquiries.map (·.hear serial answers) = inquiries := by
  refine (List.map_congr_left fun q hq => ?_).trans (List.map_id inquiries)
  exact Inquiry.hear_of_ne (others q hq)

/-- What a task makes its endpoint post is put down to one request. -/
theorem perm_hear {inquiries : List Inquiry} (apart : (inquiries.filterMap Inquiry.serial).Nodup)
    {serial : Nat} (mem : q ∈ inquiries) (same : q.serial = some serial) :
    ((inquiries.map (·.hear serial answers)).flatMap Inquiry.answers).Perm
      (inquiries.flatMap Inquiry.answers ++ answers) := by
  obtain ⟨l, r, rfl⟩ := List.append_of_mem mem
  rw [List.filterMap_append, List.filterMap_cons_some same, List.nodup_append,
    List.nodup_cons] at apart
  obtain ⟨-, ⟨right, -⟩, left⟩ := apart
  have keepLeft : l.map (·.hear serial answers) = l := by
    apply map_hear_of_ne
    intro x hx there
    exact left serial (List.mem_filterMap.mpr ⟨x, hx, there⟩) serial List.mem_cons_self rfl
  have keepRight : r.map (·.hear serial answers) = r := by
    apply map_hear_of_ne
    intro x hx there
    exact right (List.mem_filterMap.mpr ⟨x, hx, there⟩)
  have here : (q.hear serial answers).answers = q.answers ++ answers := by
    rw [Inquiry.hear, if_pos same]
  rw [List.map_append, List.map_cons, keepLeft, keepRight]
  simp only [List.flatMap_append, List.flatMap_cons, here, List.append_assoc]
  exact (List.perm_append_comm.append_left _).append_left _

/-- A task ends, and with it the handler of a request, if it ran one. -/
theorem Holds.ends (holds : d.Holds) {t : Task} {ending : Ending} (mem : t ∈ d.net.a.tasks)
    (ends : t.ending? = some ending)
    (shifts : d.net.Shifts (t.role.answers ending) (d.net.a.tasks.filter (·.serial != t.serial)) []
      net') :
    Holds { net := net'
            inquiries := d.inquiries.map (·.hear t.serial (t.role.answers ending)) } where
  lone := shifts.lone holds.lone
  posted := by
    rw [shifts.responses holds.lone]
    refine (holds.posted.append_right _).trans (List.Perm.symm ?_)
    -- a task that answers nothing belongs to no request
    cases request : t.role.requestId? with
    | none =>
      rw [Role.answers_eq_nil request, List.append_nil]
      simp only [Inquiry.hear_nil, List.map_id']
      exact .refl _
    | some id =>
      obtain ⟨q, hq, same⟩ := holds.owned t mem (by rw [request]; exact nofun)
      exact perm_hear holds.apart hq same
  apart := by
    have same : (d.inquiries.map (·.hear t.serial (t.role.answers ending))).filterMap
        Inquiry.serial = d.inquiries.filterMap Inquiry.serial := by
      simp only [List.filterMap_map, Function.comp_def, Inquiry.serial_hear]
    rw [same]
    exact holds.apart
  below := by
    intro q' hq' n hn
    obtain ⟨q, hq, rfl⟩ := List.mem_map.mp hq'
    rw [Inquiry.serial_hear] at hn
    exact Nat.lt_of_lt_of_le (holds.below q hq n hn) shifts.serial
  owned := by
    intro u' hu' request
    rcases shifts.continues_or_new hu' with ⟨u, hu, continues⟩ | new
    · rw [continues.role] at request
      obtain ⟨q, hq, serial⟩ := holds.owned u (shifts.sub.subset hu) request
      refine ⟨_, List.mem_map_of_mem hq, ?_⟩
      rw [Inquiry.serial_hear, serial, continues.serial]
    · cases new
  each := by
    intro q' hq'
    obtain ⟨q, hq, rfl⟩ := List.mem_map.mp hq'
    have gone : ∀ u ∈ net'.a.tasks, u.serial ≠ t.serial := by
      intro u' hu'
      rcases shifts.continues_or_new hu' with ⟨u, hu, continues⟩ | new
      · rw [continues.serial]
        exact bne_iff_ne.mp (List.mem_filter.mp hu).2
      · cases new
    -- an answered request has no task, so it is not the one that hears
    by_cases same : q.serial = some t.serial
    · rcases holds.each q hq with running | settled
      · obtain ⟨heard, verdict⟩ := running.ends holds.lone mem same ends
        rw [heard]
        refine Or.inr ⟨fun u hu there => ?_, _, rfl, verdict⟩
        exact gone u hu (Option.some.inj (there.symm.trans same))
      · exact absurd same (settled.gone t mem)
    · rw [Inquiry.hear_of_ne same]
      rcases holds.each q hq with running | settled
      · refine Or.inl (running.shifts shifts fun u hu serial => ?_)
        refine List.mem_filter.mpr ⟨hu, bne_iff_ne.mpr fun there => ?_⟩
        exact same (there ▸ serial)
      · exact Or.inr (settled.shifts shifts (holds.below q hq))

/-! ### Steps -/

theorem step_of_silent {ev : Event} (other : ev.request? = none)
    (silent : (d.net.event ev).responses.drop d.net.responses.length = []) :
    d.step ev = { d with net := d.net.event ev } := by
  unfold step
  simp only [silent]
  split
  · cases other
  · simp only [Inquiry.hear_nil, List.map_id']
  · rfl

theorem step_task (d : Docket) (serial : Nat) :
    d.step (.act (.go (.task .a serial))) =
      { net := d.net.event (.act (.go (.task .a serial)))
        inquiries := d.inquiries.map (·.hear serial
          ((d.net.event (.act (.go (.task .a serial)))).responses.drop d.net.responses.length)) } :=
  rfl

theorem step_request (d : Docket) (r : Request) :
    let net := d.net.event (.message (.request r))
    d.step (.message (.request r)) =
      { net
        inquiries := d.inquiries ++ [{
          request := r
          handler := d.net.a.endpoint.registry.requestHandler? r.method
          serial := (started? d.net.a.tasks net.a.tasks r).map Task.serial
          answers := net.responses.drop d.net.responses.length }] } :=
  rfl

/-- Tasks that run for no request are not taken for the task of one. -/
theorem find?_request {tasks : List Task} (others : ∀ t ∈ tasks, t.role.requestId? = none)
    (r : Request) : tasks.find? (·.role == .handler (.request r.id r.method)) = none := by
  rw [List.find?_eq_none]
  intro t ht same
  have other := others t ht
  rw [beq_iff_eq.mp same] at other
  cases other

theorem Holds.step (holds : d.Holds) (ev : Event) : (d.step ev).Holds := by
  have lone := holds.lone
  cases lone.responds ev with
  | quietly other others shifts =>
    rw [step_of_silent other (shifts.drop_responses lone)]
    exact holds.quiet shifts others
  | ends mem ends shifts =>
    rw [step_task, shifts.drop_responses lone]
    exact holds.ends mem ends shifts
  | refuses refused others shifts =>
    rename_i r err new
    rw [step_request, started?, shifts.drop_responses lone, shifts.freshFrom lone,
      find?_request others r]
    refine holds.enter shifts ?_ ?_ ?_
    · intro n hn
      cases hn
    · intro t ht request
      exact absurd (others t ht) request
    · refine Or.inr ⟨?_, _, rfl, verdict_of_refusal refused⟩
      intro t _ same
      cases same
  | starts accepted found others shifts =>
    rename_i r h serial new
    let t : Task := ⟨serial, .handler (.request r.id r.method), .going (r.job h).script⟩
    have started : (new ++ [t]).find? (·.role == .handler (.request r.id r.method)) = some t := by
      rw [List.find?_append, find?_request others r]
      simp [t]
    have last : t ∈ new ++ [t] := List.mem_append_right new (List.mem_singleton_self t)
    rw [step_request, started?, shifts.drop_responses lone, shifts.freshFrom lone, started]
    refine holds.enter shifts ?_ ?_ ?_
    · intro n hn
      obtain rfl : t.serial = n := Option.some.inj hn
      exact shifts.fresh t last
    · intro u hu request
      rcases List.mem_append.mp hu with other | same
      · exact absurd (others u other) request
      · rw [List.mem_singleton.mp same]
        rfl
    · refine Or.inl ⟨rfl, named_of_accepted accepted, t, shifts.mem_of_new last, rfl, rfl, h, found, ?_⟩
      exact Script.Leads.start

theorem net_step (d : Docket) (ev : Event) : (d.step ev).net = d.net.event ev := by
  unfold step
  split <;> rfl

theorem requests_step (d : Docket) (ev : Event) :
    (d.step ev).inquiries.map Inquiry.request =
      d.inquiries.map Inquiry.request ++ ev.request?.toList := by
  unfold step
  split
  · rw [List.map_append]
    rfl
  · simp only [List.map_map, Function.comp_def, Inquiry.request_hear]
    exact (List.append_nil _).symm
  · rename_i other _
    have none : ev.request? = none := by
      cases ev with
      | message m =>
        cases m with
        | request r => exact absurd rfl (other r)
        | _ => rfl
      | _ => rfl
    rw [none]
    exact (List.append_nil _).symm

theorem Holds.run (holds : d.Holds) (events : List Event) : (d.run events).Holds := by
  induction events generalizing d with
  | nil => exact holds
  | cons ev events ih => exact ih (holds.step ev)

/-- What is posted for a request once its handler has nothing left to do. -/
theorem Holds.inquiry_ends (holds : d.Holds) {i : Nat} {t : Task} {ending : Ending}
    (here : d.inquiries[i]? = some q) (mem : t ∈ d.net.a.tasks) (same : q.serial = some t.serial)
    (ends : t.ending? = some ending) :
    (d.step (.act (.go (.task .a t.serial)))).inquiries[i]? =
      some { q with answers := [⟨q.request.id, ending.toOutcome⟩] } := by
  have lone := holds.lone
  rw [step_task, List.getElem?_map, here, (lone.shifts_end mem ends).drop_responses lone]
  rcases holds.each q (List.mem_of_getElem? here) with running | settled
  · rw [Option.map_some, (running.ends lone mem same ends).1]
  · exact absurd same (settled.gone t mem)

/-! ### Runs -/

/-- What is in a docket stays there, and nothing is added for a request that was answered. -/
structure Later (d d' : Docket) : Prop where
  posted : d.net.a.endpoint.transport.posted <+: d'.net.a.endpoint.transport.posted
  kept : ∀ (i : Nat) (q : Inquiry), d.inquiries[i]? = some q →
    ∃ answers, d'.inquiries[i]? = some { q with answers }
  settled : ∀ (i : Nat) (q : Inquiry), d.inquiries[i]? = some q → q.Settled d.net →
    d'.inquiries[i]? = some q ∧ q.Settled d'.net

theorem Later.refl (d : Docket) : d.Later d where
  posted := List.prefix_rfl
  kept _ q here := ⟨q.answers, here⟩
  settled _ _ here settled := ⟨here, settled⟩

theorem Later.trans {d d' d'' : Docket} (h : d.Later d') (h' : d'.Later d'') : d.Later d'' where
  posted := h.posted.trans h'.posted
  kept i q here := by
    obtain ⟨answers, there⟩ := h.kept i q here
    exact h'.kept i { q with answers } there
  settled i q here settled := by
    obtain ⟨there, still⟩ := h.settled i q here settled
    exact h'.settled i q there still

theorem kept_step (d : Docket) (ev : Event) {i : Nat} (here : d.inquiries[i]? = some q) :
    ∃ answers, (d.step ev).inquiries[i]? = some { q with answers } := by
  have old : i < d.inquiries.length := (List.getElem?_eq_some_iff.mp here).1
  unfold step
  split
  · refine ⟨q.answers, ?_⟩
    simp only [List.getElem?_append_left old, here]
  · simp only [List.getElem?_map, here, Option.map_some, Inquiry.hear]
    split
    · exact ⟨_, rfl⟩
    · exact ⟨q.answers, rfl⟩
  · exact ⟨q.answers, here⟩

theorem Holds.settled_step (holds : d.Holds) (ev : Event) {i : Nat}
    (here : d.inquiries[i]? = some q) (settled : q.Settled d.net) :
    (d.step ev).inquiries[i]? = some q := by
  have lone := holds.lone
  have old : i < d.inquiries.length := (List.getElem?_eq_some_iff.mp here).1
  cases lone.responds ev with
  | quietly other others shifts =>
    rw [step_of_silent other (shifts.drop_responses lone)]
    exact here
  | ends mem ends shifts =>
    rw [step_task, List.getElem?_map, here, Option.map_some,
      Inquiry.hear_of_ne (settled.gone _ mem)]
  | refuses refused others shifts | starts accepted found others shifts =>
    rw [step_request, List.getElem?_append_left old, here]

theorem Holds.later_step (holds : d.Holds) (ev : Event) : d.Later (d.step ev) := by
  obtain ⟨answers, kept, new, shifts⟩ := (holds.lone.responds ev).exists_shifts
  refine ⟨?_, ?_, ?_⟩
  · rw [net_step]
    exact (shifts.answers holds.lone.keeps).2.1
  · intro i q here
    exact d.kept_step ev here
  · intro i q here settled
    refine ⟨holds.settled_step ev here settled, ?_⟩
    rw [net_step]
    exact settled.shifts shifts (holds.below q (List.mem_of_getElem? here))

theorem Holds.later (holds : d.Holds) (events : List Event) : d.Later (d.run events) := by
  induction events generalizing d with
  | nil => exact .refl d
  | cons ev events ih => exact (holds.later_step ev).trans (ih (holds.step ev))

theorem requests_cons (ev : Event) (events : List Event) :
    (ev :: events).filterMap Event.request? =
      ev.request?.toList ++ events.filterMap Event.request? := by
  cases request : ev.request? with
  | none =>
    rw [List.filterMap_cons_none request]
    rfl
  | some r =>
    rw [List.filterMap_cons_some request]
    rfl

theorem requests_run (d : Docket) (events : List Event) :
    (d.run events).inquiries.map Inquiry.request =
      d.inquiries.map Inquiry.request ++ events.filterMap Event.request? := by
  induction events generalizing d with
  | nil => exact (List.append_nil _).symm
  | cons ev events ih =>
    refine (ih (d.step ev)).trans ?_
    rw [requests_step, requests_cons, List.append_assoc]

theorem Holds.balance (holds : d.Holds) (events : List Event) :
    ((d.run events).net.responses.map Response.id ++
        Task.requestIds (d.run events).net.a.tasks).Perm
      (d.net.responses.map Response.id ++ Task.requestIds d.net.a.tasks ++
        (events.filterMap Event.request?).map Request.id) := by
  induction events generalizing d with
  | nil => exact .of_eq (List.append_nil _).symm
  | cons ev events ih =>
    refine (ih (holds.step ev)).trans ?_
    have first := (holds.lone.responds ev).balance holds.lone
    rw [← net_step] at first
    rw [requests_cons, List.map_append, ← List.append_assoc]
    exact first.append_right _

/-- A lone endpoint before anything happens. -/
def opening (s : Setup) : Docket :=
  { net := Network.lone s }

theorem holds_opening (s : Setup) : (opening s).Holds where
  lone :=
    { alone := rfl
      idle := ⟨rfl, rfl, rfl⟩
      keeps := ⟨[], rfl⟩
      below := fun _ ht => absurd ht List.not_mem_nil
      apart := List.nodup_nil }
  posted := .refl _
  apart := List.nodup_nil
  below _ hq := absurd hq List.not_mem_nil
  owned _ ht := absurd ht List.not_mem_nil
  each _ hq := absurd hq List.not_mem_nil

/-- The docket has every request that came in, in order, and every response that was posted. Each
request waits for its own task, and nothing was posted for it, or it was answered by one response. -/
structure Accounts (d : Docket) (events : List Event) : Prop where
  requests : d.inquiries.map Inquiry.request = events.filterMap Event.request?
  posted : d.net.responses.Perm (d.inquiries.flatMap Inquiry.answers)
  apart : (d.inquiries.filterMap Inquiry.serial).Nodup
  each : ∀ q ∈ d.inquiries, q.Running d.net ∨ q.Settled d.net
  /-- The ids of the responses, and those of the requests whose handlers are running. -/
  ids : (d.net.responses.map Response.id ++ Task.requestIds d.net.a.tasks).Perm
    ((events.filterMap Event.request?).map Request.id)

/-- Whatever happens to a lone endpoint, in whatever order: every request is answered by one response
with its id and the outcome that its handler gives, posted when its handler ends and not before, or at
once where it has no method or no handler. Nothing that happens later changes it. -/
theorem requests_answered (s : Setup) (events more : List Event) :
    let d := (opening s).run events
    d.Accounts events ∧ d.Later (d.run more) ∧
      ∀ (i : Nat) (q : Inquiry) (t : Task) (ending : Ending), d.inquiries[i]? = some q →
        t ∈ d.net.a.tasks → q.serial = some t.serial → t.ending? = some ending →
        (d.step (.act (.go (.task .a t.serial)))).inquiries[i]? =
          some { q with answers := [⟨q.request.id, ending.toOutcome⟩] } := by
  intro d
  have holds : d.Holds := (holds_opening s).run events
  refine ⟨?_, holds.later more, ?_⟩
  · exact
      { requests := requests_run (opening s) events
        posted := holds.posted
        apart := holds.apart
        each := holds.each
        ids := (holds_opening s).balance events }
  · intro i q t ending here mem same ends
    exact holds.inquiry_ends here mem same ends

/-- Two requests with the same id: the second one is answered while the first one waits. -/
example :
    let later : Handler := fun _ _ => .wait "gate" fun _ => .done (.ok .null)
    let now : Handler := fun _ _ => .done (.ok .null)
    let ask (method : String) : Event := .message (.request { id := .str "a", method })
    let s : Setup := { registry := { requests := [("later", later), ("now", now)] } }
    ((opening s).run [ask "later", ask "now", .act (.go (.task .a 0)),
      .act (.go (.task .a 1))]).inquiries.map Inquiry.answers = [[], [⟨.str "a", .ok .null⟩]] := by
  rfl

end Docket

end DuplexRpc

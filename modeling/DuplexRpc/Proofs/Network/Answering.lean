import DuplexRpc.Proofs.Network.Asking

/-! The side that answers. `Answering` ties the requests that an endpoint handled to the tasks that
run for them and to the responses that it posted. -/

namespace DuplexRpc

/-- How a request that a side handled comes to its outcome: its handler ran from a task that started
with the request to the end of that task, or the request was refused. -/
inductive Trace.Settles (handlers : List (String × Handler)) (trace : Trace) (q : Request) :
    Outcome → Prop where
  | ran (h : Handler) (first last : Task) (ending : Ending)
      (found : Fields.get? q.method handlers = some h) (started : first ∈ trace.started)
      (role : first.role = .handler (.request q.id q.method))
      (stand : first.stand = .going (h { method := q.method, id := some q.id } q.params))
      (ended : (last, ending) ∈ trace.ended) (ends : last.ending? = some ending)
      (follows : first.Follows last) :
      Settles handlers trace q ending.toOutcome
  | refused (err : RpcError) (refused : q.refusal? handlers = some err) :
      Settles handlers trace q (.error err)

theorem Trace.Settles.append {handlers : List (String × Handler)} {trace : Trace} {q : Request}
    {outcome : Outcome} (h : trace.Settles handlers q outcome) (new : Trace) :
    (trace.append new).Settles handlers q outcome := by
  cases h with
  | ran h first last ending found started role stand ended ends follows =>
    exact .ran h first last ending found (List.mem_append_left _ started) role stand
      (List.mem_append_left _ ended) ends follows
  | refused err refused => exact .refused err refused

/-- What holds of the tasks of a side with `handlers`, by the trace of the side. -/
structure Answering (handlers : List (String × Handler)) (e : Endpoint) (tasks : List Task)
    (trace : Trace) : Prop where
  registry : e.registry.requests = handlers
  ids : (trace.asked.map Request.id).Perm
    (Task.requestIds tasks ++ trace.responses.map Response.id)
  once : (Task.requestIds trace.started).Sublist (trace.asked.map Request.id)
  runs : ∀ t ∈ trace.started, ∀ id method, t.role = .handler (.request id method) →
    ∃ q ∈ trace.asked, q.id = id ∧ q.method = method ∧ ∃ h,
      Fields.get? q.method handlers = some h ∧
      t.stand = .going (h { method := q.method, id := some q.id } q.params)
  known : ∀ t ∈ tasks, ∃ u ∈ trace.started, u.Follows t
  settled : ∀ r ∈ trace.responses, ∃ q ∈ trace.asked, q.id = r.id ∧
    trace.Settles handlers q r.result

namespace Answering

variable {handlers : List (String × Handler)} {e e' : Endpoint} {tasks tasks' : List Task}
  {trace new : Trace}

theorem via (h : Answering handlers e tasks trace) (t : Transport)
    (advance : Task.Advance tasks tasks') :
    Answering handlers (e.via t) tasks' trace where
  registry := h.registry
  ids := by
    rw [Task.requestIds_of_tags advance.tags]
    exact h.ids
  once := h.once
  runs := h.runs
  known t ht := by
    obtain ⟨u, hu, last⟩ := advance.follows t ht
    obtain ⟨v, hv, first⟩ := h.known u hu
    exact ⟨v, hv, first.trans last⟩
  settled := h.settled

theorem fresh (e : Endpoint) : Answering e.registry.requests e [] {} where
  registry := rfl
  ids := .refl _
  once := .refl _
  runs _ ht := absurd ht List.not_mem_nil
  known _ ht := absurd ht List.not_mem_nil
  settled _ hr := absurd hr List.not_mem_nil

/-- What has to be shown of something that happens. -/
theorem next (h : Answering handlers e tasks trace)
    (registry : e'.registry.requests = e.registry.requests)
    (ids : ((trace.append new).asked.map Request.id).Perm
      (Task.requestIds tasks' ++ (trace.append new).responses.map Response.id))
    (once : (Task.requestIds new.started).Sublist (new.asked.map Request.id))
    (runs : ∀ t ∈ new.started, ∀ id method, t.role = .handler (.request id method) →
      ∃ q ∈ new.asked, q.id = id ∧ q.method = method ∧ ∃ h,
        Fields.get? q.method handlers = some h ∧
        t.stand = .going (h { method := q.method, id := some q.id } q.params))
    (known : ∀ t ∈ tasks', (∃ u ∈ tasks, u.Follows t) ∨ t ∈ new.started)
    (settled : ∀ r ∈ new.responses, ∃ q ∈ (trace.append new).asked, q.id = r.id ∧
      (trace.append new).Settles handlers q r.result) :
    Answering handlers e' tasks' (trace.append new) where
  registry := registry.trans h.registry
  ids := ids
  once := by
    rw [Trace.started_append, Task.requestIds_append, Trace.asked_append, List.map_append]
    exact h.once.append once
  runs t ht id method role := by
    rw [Trace.asked_append]
    rcases List.mem_append.mp ht with old | fresh
    · obtain ⟨q, hq, rest⟩ := h.runs t old id method role
      exact ⟨q, List.mem_append_left _ hq, rest⟩
    · obtain ⟨q, hq, rest⟩ := runs t fresh id method role
      exact ⟨q, List.mem_append_right _ hq, rest⟩
  known t ht := by
    rcases known t ht with ⟨u, hu, last⟩ | fresh
    · obtain ⟨v, hv, first⟩ := h.known u hu
      exact ⟨v, List.mem_append_left _ hv, first.trans last⟩
    · exact ⟨t, List.mem_append_right _ fresh, .refl t⟩
  settled r hr := by
    rw [Trace.responses_append] at hr
    rcases List.mem_append.mp hr with old | fresh
    · obtain ⟨q, hq, same, settles⟩ := h.settled r old
      refine ⟨q, ?_, same, settles.append new⟩
      rw [Trace.asked_append]
      exact List.mem_append_left _ hq
    · exact settled r fresh

theorem quiet (h : Answering handlers e tasks trace)
    (registry : e'.registry.requests = e.registry.requests) (asked : new.asked = [])
    (responses : new.responses = []) (started : ∀ t ∈ new.started, t.role.requestId? = none)
    (ids : (Task.requestIds tasks).Perm (Task.requestIds tasks'))
    (known : ∀ t ∈ tasks', (∃ u ∈ tasks, u.Follows t) ∨ t ∈ new.started) :
    Answering handlers e' tasks' (trace.append new) := by
  refine h.next registry ?_ ?_ ?_ known ?_
  · rw [Trace.asked_append, Trace.responses_append, asked, responses, List.append_nil,
      List.append_nil]
    exact h.ids.trans (ids.append_right _)
  · rw [Task.requestIds_eq_nil started]
    exact List.nil_sublist _
  · intro t ht id method role
    have none := started t ht
    rw [role] at none
    cases none
  · rw [responses]
    exact fun _ hr => absurd hr List.not_mem_nil

theorem known_of_append {more : List Task} (started : new.started = more) :
    ∀ t ∈ tasks ++ more, (∃ u ∈ tasks, u.Follows t) ∨ t ∈ new.started := by
  intro t ht
  rw [started]
  exact (List.mem_append.mp ht).imp_left fun old => ⟨t, old, .refl t⟩

theorem advance (h : Answering handlers e tasks trace)
    (registry : e'.registry.requests = e.registry.requests) (asked : new.asked = [])
    (responses : new.responses = []) (started : new.started = [])
    (advance : Task.Advance tasks tasks') : Answering handlers e' tasks' (trace.append new) := by
  refine h.quiet registry asked responses ?_ (.of_eq (Task.requestIds_of_tags advance.tags).symm) ?_
  · rw [started]
    exact fun _ ht => absurd ht List.not_mem_nil
  · exact fun t ht => Or.inl (advance.follows t ht)

theorem asked (h : Answering handlers e tasks trace) {r : Request} {handler : Handler}
    (more : List Task) (t : Task)
    (found : Fields.get? r.method e.registry.requests = some handler)
    (roles : ∀ t ∈ more, t.role.requestId? = none)
    (role : t.role = .handler (.request r.id r.method))
    (stand : t.stand = .going (handler { method := r.method, id := some r.id } r.params)) :
    Answering handlers e (tasks ++ (more ++ [t]))
      (trace.append { handled := [.request r], started := more ++ [t] }) := by
  have one : Task.requestIds [t] = [r.id] := by
    simp only [Task.requestIds, List.filterMap_cons, role, Role.requestId?, List.filterMap_nil]
  have ids : Task.requestIds (more ++ [t]) = [r.id] := by
    rw [Task.requestIds_append, Task.requestIds_eq_nil roles, one, List.nil_append]
  refine h.next rfl ?_ ?_ ?_ (known_of_append rfl) ?_
  · rw [Trace.asked_append, Trace.responses_append, Task.requestIds_append, ids, List.map_append]
    show List.Perm (trace.asked.map Request.id ++ [r.id])
      ((Task.requestIds tasks ++ [r.id]) ++ (trace.responses ++ []).map Response.id)
    rw [List.append_nil, List.append_assoc]
    refine (h.ids.append_right [r.id]).trans ?_
    rw [List.append_assoc]
    exact List.perm_append_comm.append_left _
  · rw [ids]
    exact List.Sublist.refl _
  · intro u hu id method hrole
    rcases List.mem_append.mp hu with old | last
    · have none := roles u old
      rw [hrole] at none
      cases none
    · rw [List.mem_singleton.mp last] at hrole ⊢
      rw [role] at hrole
      injection hrole with origin
      injection origin with sameId sameMethod
      exact ⟨r, List.mem_cons_self, sameId, sameMethod, handler, h.registry ▸ found, stand⟩
  · exact fun _ hr => absurd hr List.not_mem_nil

theorem refused (h : Answering handlers e tasks trace) {r : Request} {err : RpcError}
    (more : List Task) (quiet : e.Quiet e') (refused : r.refusal? e.registry.requests = some err)
    (roles : ∀ t ∈ more, t.role.requestId? = none) :
    Answering handlers e' (tasks ++ more)
      (trace.append
        { posted := [.response ⟨r.id, .error err⟩], handled := [.request r], started := more }) := by
  refine h.next quiet.requests ?_ ?_ ?_ (known_of_append rfl) ?_
  · rw [Trace.asked_append, Trace.responses_append, Task.requestIds_append,
      Task.requestIds_eq_nil roles, List.append_nil, List.map_append, List.map_append]
    exact (h.ids.append_right [r.id]).trans (List.Perm.of_eq (List.append_assoc _ _ _))
  · rw [Task.requestIds_eq_nil roles]
    exact List.nil_sublist _
  · intro u hu id method hrole
    have none := roles u hu
    rw [hrole] at none
    cases none
  · intro r' hr'
    rw [List.mem_singleton.mp hr', Trace.asked_append]
    exact ⟨r, List.mem_append_right _ List.mem_cons_self, rfl, .refused err (h.registry ▸ refused)⟩

/-- A task ends. Its handler is the one that started under its serial number. -/
theorem ended (h : Answering handlers e tasks trace) {t : Task} {ending : Ending}
    {rest : List Task} (quiet : e.Quiet e') (removed : tasks.Perm (t :: rest))
    (ends : t.ending? = some ending) :
    Answering handlers e' rest
      (trace.append { posted := t.role.answer ending, ended := [(t, ending)] }) := by
  have known : ∀ u ∈ rest, (∃ v ∈ tasks, v.Follows u) ∨ u ∈ ([] : List Task) :=
    fun u hu => Or.inl ⟨u, removed.symm.subset (List.mem_cons_of_mem _ hu), .refl u⟩
  have running : (Task.requestIds tasks).Perm (Task.requestIds (t :: rest)) := removed.filterMap _
  obtain ⟨first, started, follows⟩ := h.known t (removed.symm.subset List.mem_cons_self)
  have sameRole : first.role = t.role := congrArg Prod.snd follows.tag
  rcases hr : t.role with (⟨id, method⟩ | method) | _
  · have tail : Task.requestIds (t :: rest) = id :: Task.requestIds rest := by
      simp only [Task.requestIds, List.filterMap_cons, hr, Role.requestId?]
    rw [tail] at running
    refine h.next quiet.requests ?_ (List.nil_sublist _)
      (fun _ hu => absurd hu List.not_mem_nil) known ?_
    · rw [Trace.asked_append, Trace.responses_append, List.map_append, List.map_append]
      show List.Perm (trace.asked.map Request.id ++ [])
        (Task.requestIds rest ++ (trace.responses.map Response.id ++ [id]))
      rw [List.append_nil, ← List.append_assoc]
      refine h.ids.trans ((running.append_right _).trans ?_)
      exact (List.perm_append_singleton _ _).symm
    · intro r hr'
      rw [Trace.asked_append]
      obtain rfl : r = ⟨id, ending.toOutcome⟩ := List.mem_singleton.mp hr'
      obtain ⟨q, hq, sameId, sameMethod, handler, found, stand⟩ :=
        h.runs first started id method (sameRole.trans hr)
      refine ⟨q, List.mem_append_left _ hq, sameId, .ran handler first t ending found
        (List.mem_append_left _ started) ?_ stand
        (List.mem_append_right _ List.mem_cons_self) ends follows⟩
      rw [sameRole, hr, sameId, sameMethod]
  all_goals
    refine h.quiet quiet.requests rfl rfl (fun _ hu => absurd hu List.not_mem_nil) ?_ known
    simpa only [Task.requestIds, List.filterMap_cons, hr, Role.requestId?] using running

theorem step {clock : Nat} (h : Answering handlers e tasks trace)
    (happening : Happening clock e tasks new e' tasks') :
    Answering handlers e' tasks' (trace.append new) := by
  have registry := happening.keeps.2.2
  cases happening with
  | quiet posted quiet notifications advance =>
    exact h.advance registry rfl (Message.responses_of_notifications notifications) rfl advance
  | launched launched advance =>
    refine h.advance registry rfl ?_ rfl advance
    cases launched <;> rfl
  | took ticket there advance | left ticket id advance | expired timer armed advance =>
    exact h.advance registry rfl rfl rfl advance
  | spawned handled more quiet notifications roles =>
    refine h.quiet registry (Message.requests_of_notifications notifications) rfl roles ?_
      (known_of_append rfl)
    rw [Task.requestIds_append, Task.requestIds_eq_nil roles, List.append_nil]
  | asked more t accepted found roles role stand => exact h.asked more t found roles role stand
  | refused more quiet refused roles => exact h.refused more quiet refused roles
  | answered r => exact h.advance registry rfl rfl rfl (.refl tasks)
  | ended quiet removed ends => exact h.ended quiet removed ends

end Answering

end DuplexRpc

import DuplexRpc.Proofs.Network.Course

/-! Tasks that come and go. A task is known by its serial number; its tag stays while it runs, and a
task that has nothing left to do stays as it is until it ends. -/

namespace DuplexRpc.Task

/-! ### Tasks that go on -/

/-- The task `t` went on to `t'`. -/
structure Follows (t t' : Task) : Prop where
  tag : t.tag = t'.tag
  stand : t.ending? ≠ none → t'.stand = t.stand

theorem Follows.refl (t : Task) : t.Follows t :=
  ⟨rfl, fun _ => rfl⟩

theorem Follows.ending {t t' : Task} (h : t.Follows t') (final : t.ending? ≠ none) :
    t'.ending? = t.ending? := by
  rw [ending?, ending?, h.stand final]

theorem Follows.trans {t t' t'' : Task} (h : t.Follows t') (h' : t'.Follows t'') :
    t.Follows t'' where
  tag := h.tag.trans h'.tag
  stand final := by
    rw [h'.stand (h.ending final ▸ final), h.stand final]

/-- Tasks that went on, each for itself. -/
structure Advance (tasks tasks' : List Task) : Prop where
  tags : tasks'.map tag = tasks.map tag
  follows : ∀ t' ∈ tasks', ∃ t ∈ tasks, t.Follows t'

theorem Advance.refl (tasks : List Task) : Advance tasks tasks :=
  ⟨rfl, fun t ht => ⟨t, ht, .refl t⟩⟩

theorem Advance.map {tasks : List Task} {f : Task → Task} (h : ∀ t ∈ tasks, t.Follows (f t)) :
    Advance tasks (tasks.map f) where
  tags := by
    rw [List.map_map]
    exact List.map_congr_left fun t ht => (h t ht).tag.symm
  follows t' ht' := by
    obtain ⟨t, ht, rfl⟩ := List.mem_map.mp ht'
    exact ⟨t, ht, h t ht⟩

theorem follows_open (t : Task) (ticket : Nat) (opening : Opening) :
    t.Follows (t.open_ ticket opening) := by
  unfold open_
  split
  · rename_i atGate
    split
    · exact ⟨rfl, fun final => absurd (by rw [ending?, atGate]) final⟩
    · exact .refl t
  · exact .refl t

/-- A task that has something left to do stands elsewhere, after all tasks went on. -/
theorem advance_setStand {tasks : List Task} {f : Task → Task} {serial : Nat} (stand : Stand)
    (follows : ∀ t : Task, t.Follows (f t))
    (going : ∀ t ∈ tasks, t.serial = serial → t.ending? = none) :
    Advance tasks
      ((tasks.map f).map fun t => if t.serial = serial then { t with stand } else t) := by
  rw [List.map_map]
  refine .map fun t ht => ?_
  have tag := (follows t).tag
  have same : t.serial = (f t).serial := congrArg Prod.fst tag
  simp only [Function.comp]
  split
  · rename_i here
    exact ⟨tag, fun final => absurd (going t ht (same.trans here)) final⟩
  · exact follows t

/-! ### Tasks that others do not have -/

variable {before after new : List Task}

theorem serials_of_tags (tags : after.map tag = before.map tag) :
    after.map serial = before.map serial := by
  have same := congrArg (List.map Prod.fst) tags
  rwa [List.map_map, List.map_map] at same

theorem freshFrom_eq_nil (h : ∀ t ∈ after, t.serial ∈ before.map serial) :
    freshFrom before after = [] := by
  rw [freshFrom, List.filter_eq_nil_iff]
  intro t ht all
  obtain ⟨u, hu, same⟩ := List.mem_map.mp (h t ht)
  have different := List.all_eq_true.mp all u hu
  rw [same, bne_self_eq_false] at different
  cases different

theorem freshFrom_eq_self (h : ∀ t ∈ new, t.serial ∉ before.map serial) :
    freshFrom before new = new := by
  rw [freshFrom, List.filter_eq_self]
  intro t ht
  rw [List.all_eq_true]
  intro u hu
  rw [bne_iff_ne]
  exact fun same => h t ht (List.mem_map.mpr ⟨u, hu, same⟩)

theorem freshFrom_of_tags (tags : after.map tag = before.map tag) : freshFrom before after = [] :=
  freshFrom_eq_nil fun _ ht => serials_of_tags tags ▸ List.mem_map_of_mem ht

theorem freshFrom_append (h : ∀ t ∈ new, t.serial ∉ before.map serial) :
    freshFrom before (before ++ new) = new := by
  have old : freshFrom before before = [] := freshFrom_eq_nil fun _ ht => List.mem_map_of_mem ht
  have self := freshFrom_eq_self h
  rw [freshFrom] at old self ⊢
  rw [List.filter_append, old, self, List.nil_append]

theorem freshFrom_left (before new : List Task) : freshFrom (before ++ new) before = [] :=
  freshFrom_eq_nil fun _ ht => List.mem_map_of_mem (List.mem_append_left new ht)

theorem eq_of_serial {t u : Task} {tasks : List Task} (apart : (tasks.map serial).Nodup)
    (ht : t ∈ tasks) (hu : u ∈ tasks) (same : t.serial = u.serial) : t = u := by
  have serials := List.pairwise_map.mp apart
  exact List.Pairwise.forall_of_forall_of_flip (R := fun t u : Task => t.serial = u.serial → t = u)
    (fun _ _ _ => rfl) (serials.imp fun different same => absurd same different)
    (serials.imp fun different same => absurd same.symm different) ht hu same

theorem find?_serial {t : Task} {tasks : List Task} (apart : (tasks.map serial).Nodup)
    (mem : t ∈ tasks) : tasks.find? (·.serial == t.serial) = some t := by
  cases here : tasks.find? (·.serial == t.serial) with
  | none => exact absurd (beq_self_eq_true _) (List.find?_eq_none.mp here t mem)
  | some u =>
    have same : u.serial = t.serial := by simpa using List.find?_some here
    rw [eq_of_serial apart (List.mem_of_find?_eq_some here) mem same]

/-- The tasks without one of them, whose serial number no other task has. -/
theorem perm_filter {t : Task} {tasks : List Task} (mem : t ∈ tasks)
    (apart : (tasks.map serial).Nodup) :
    tasks.Perm (t :: tasks.filter (·.serial != t.serial)) ∧
      freshFrom (tasks.filter (·.serial != t.serial)) tasks = [t] := by
  obtain ⟨l, r, rfl⟩ := List.append_of_mem mem
  rw [List.map_append, List.map_cons, List.nodup_append, List.nodup_cons] at apart
  obtain ⟨-, ⟨right, -⟩, left⟩ := apart
  have keepLeft : l.filter (·.serial != t.serial) = l := by
    rw [List.filter_eq_self]
    intro u hu
    rw [bne_iff_ne]
    exact left _ (List.mem_map_of_mem hu) _ List.mem_cons_self
  have keepRight : r.filter (·.serial != t.serial) = r := by
    rw [List.filter_eq_self]
    intro u hu
    rw [bne_iff_ne]
    intro same
    exact right (same ▸ List.mem_map_of_mem hu)
  have filtered : (l ++ t :: r).filter (·.serial != t.serial) = l ++ r := by
    rw [List.filter_append, List.filter_cons, keepLeft, keepRight, bne_self_eq_false]
    rfl
  rw [filtered]
  refine ⟨List.perm_middle, ?_⟩
  have goneLeft : freshFrom (l ++ r) l = [] := freshFrom_eq_nil
    fun _ hu => List.mem_map_of_mem (List.mem_append_left r hu)
  have goneRight : freshFrom (l ++ r) r = [] := freshFrom_eq_nil
    fun _ hu => List.mem_map_of_mem (List.mem_append_right l hu)
  have kept : freshFrom (l ++ r) [t] = [t] := freshFrom_eq_self fun u hu old => by
    obtain rfl := List.mem_singleton.mp hu
    rw [List.map_append, List.mem_append] at old
    rcases old with hl | hr
    · exact left _ hl _ List.mem_cons_self rfl
    · exact right hr
  rw [freshFrom] at goneLeft goneRight kept ⊢
  rw [List.filter_append, ← List.singleton_append, List.filter_append, goneLeft, goneRight, kept]
  rfl

/-! ### Requests that tasks run handlers for -/

variable {tasks tasks' : List Task}

theorem requestIds_append : requestIds (tasks ++ tasks') = requestIds tasks ++ requestIds tasks' :=
  List.filterMap_append

theorem requestIds_of_tags (tags : tasks'.map tag = tasks.map tag) :
    requestIds tasks' = requestIds tasks := by
  have same : ∀ tasks : List Task,
      requestIds tasks = (tasks.map tag).filterMap fun x => x.2.requestId? := by
    intro tasks
    rw [List.filterMap_map]
    rfl
  rw [same, same, tags]

theorem requestIds_eq_nil (h : ∀ t ∈ tasks, t.role.requestId? = none) : requestIds tasks = [] :=
  List.filterMap_eq_nil_iff.mpr h

/-! ### Jobs -/

/-- The tasks of jobs, with serial numbers from `serial` on. -/
def ofJobs (serial : Nat) : List Job → List Task
  | [] => []
  | job :: jobs => ⟨serial, .handler job.origin, .going job.script⟩ :: ofJobs (serial + 1) jobs

theorem ofJobs_append (serial : Nat) (jobs more : List Job) :
    ofJobs serial (jobs ++ more) = ofJobs serial jobs ++ ofJobs (serial + jobs.length) more := by
  induction jobs generalizing serial with
  | nil => rfl
  | cons job jobs ih =>
    have next : serial + (jobs.length + 1) = serial + 1 + jobs.length := by omega
    simp only [List.cons_append, ofJobs, ih, List.length_cons, next]

theorem mem_ofJobs {serial : Nat} {jobs : List Job} {t : Task} (h : t ∈ ofJobs serial jobs) :
    serial ≤ t.serial ∧ t.serial < serial + jobs.length ∧
      ∃ job ∈ jobs, t.role = .handler job.origin := by
  induction jobs generalizing serial with
  | nil => exact absurd h List.not_mem_nil
  | cons job jobs ih =>
    rw [List.length_cons]
    rcases List.mem_cons.mp h with rfl | h
    · exact ⟨Nat.le_refl _, by simp only; omega, job, List.mem_cons_self, rfl⟩
    · obtain ⟨least, most, origin, mem, role⟩ := ih h
      exact ⟨by omega, by omega, origin, List.mem_cons_of_mem _ mem, role⟩

theorem nodup_ofJobs (serial : Nat) (jobs : List Job) :
    ((ofJobs serial jobs).map Task.serial).Nodup := by
  induction jobs generalizing serial with
  | nil => exact List.nodup_nil
  | cons job jobs ih =>
    refine List.nodup_cons.mpr ⟨fun mem => ?_, ih (serial + 1)⟩
    obtain ⟨t, ht, same⟩ := List.mem_map.mp mem
    have := (mem_ofJobs ht).1
    simp only at same
    omega

end DuplexRpc.Task

import DuplexRpc.Proofs.Endpoint.Pool
import DuplexRpc.Session.Perform

/-! The ids that an endpoint hands out. Whatever it is asked or sent, it takes some ids from its source
in turn, gives each of them to a request of its own, and lets no other request wait. No background
task starts or ends by that. -/

namespace DuplexRpc

/-- The id that a note tells a new request of. -/
def Note.requested? : Note → Option Id
  | .requesting id _ => some id
  | _ => none

/-! ### What registrations tell -/

namespace Registry

theorem requested_registerRequest (r : Registry) (method : String) (h : Handler) :
    (r.registerRequest method h).2.2.filterMap Note.requested? = [] := by
  unfold registerRequest
  split <;> rfl

theorem requested_exportMethod (r : Registry) (m : MethodMapping)
    (f : Context → List Value → Script) :
    (r.exportMethod m f).2.2.filterMap Note.requested? = [] := by
  unfold exportMethod
  split
  · exact r.requested_registerRequest m.name _
  · rfl

theorem requested_exportMethods (r : Registry) (service : ServiceDescriptor)
    (ms : List ServiceMethod) :
    (r.exportMethods service ms).2.2.filterMap Note.requested? = [] := by
  induction ms generalizing r with
  | nil => rfl
  | cons m ms ih =>
    rw [exportMethods]
    rcases r.resolve service m.descriptor with ⟨err | mapping, r'⟩
    · rfl
    · have exported := r'.requested_exportMethod mapping m.run
      simp only
      generalize r'.exportMethod mapping m.run = x at exported
      obtain ⟨err | ⟨⟩, r'', notes⟩ := x
      · exact exported
      · show (notes ++ (r''.exportMethods service ms).2.2).filterMap Note.requested? = []
        have told : notes.filterMap Note.requested? = [] := exported
        rw [List.filterMap_append, told, ih, List.append_nil]

theorem requested_register (r : Registry) (entry : Entry) :
    (r.register entry).2.2.filterMap Note.requested? = [] := by
  cases entry with
  | request method h => exact r.requested_registerRequest method h
  | notification method h => rfl
  | service s => exact r.requested_exportMethods s.descriptor s.methods

end Registry

namespace Endpoint

/-- The ids that were given to requests, in order. -/
def handedOut (e : Endpoint) : List Id :=
  e.notes.filterMap Note.requested?

/-- An endpoint takes as many ids in turn and hands them out. -/
structure Draws (e : Endpoint) (count : Nat) (e' : Endpoint) : Prop where
  ids : e'.ids = e.ids.after count
  handedOut : e'.handedOut = e.handedOut ++ e.ids.takeMany count
  entries : ∀ p ∈ e'.pool.entries, p ∈ e.pool.entries ∨ p.id ∈ e.ids.takeMany count

/-- What an endpoint comes to by what it does: it may have handed out ids, and it supervises the same
tasks, which may have been asked to stop. -/
structure Works (e e' : Endpoint) : Prop where
  draws : ∃ count, e.Draws count e'
  supervisor : e'.supervisor = e.supervisor ∨ e'.supervisor = e.supervisor.stop

variable {e e' e'' : Endpoint} {m n : Nat}

theorem Draws.trans (h : e.Draws m e') (h' : e'.Draws n e'') : e.Draws (m + n) e'' where
  ids := by rw [h'.ids, h.ids, IdSource.after_add]
  handedOut := by rw [h'.handedOut, h.handedOut, h.ids, IdSource.takeMany_add, List.append_assoc]
  entries p mem := by
    rw [IdSource.takeMany_add, List.mem_append, ← h.ids]
    rcases h'.entries p mem with old | new
    · rcases h.entries p old with old | new
      · exact .inl old
      · exact .inr (.inl new)
    · exact .inr (.inr new)

/-- No id is taken, and requests may leave the pool. -/
theorem draws_zero (ids : e'.ids = e.ids) (handedOut : e'.handedOut = e.handedOut)
    (entries : e'.pool.entries ⊆ e.pool.entries) : e.Draws 0 e' :=
  ⟨ids, by simp [handedOut, IdSource.takeMany], fun _ mem => .inl (entries mem)⟩

namespace Works

theorem refl (e : Endpoint) : e.Works e :=
  ⟨⟨0, draws_zero rfl rfl (List.Subset.refl _)⟩, .inl rfl⟩

theorem trans (h : e.Works e') (h' : e'.Works e'') : e.Works e'' := by
  obtain ⟨m, first⟩ := h.draws
  obtain ⟨n, second⟩ := h'.draws
  refine ⟨⟨m + n, first.trans second⟩, ?_⟩
  rcases h'.supervisor with same | stopped
  · rw [same]
    exact h.supervisor
  · refine .inr ?_
    rcases h.supervisor with before | before
    · rw [stopped, before]
    · -- asked twice is asked once
      rw [stopped, before, Supervisor.stop, Supervisor.stop]

end Works

theorem works_pool (e : Endpoint) {pool : PendingPool} (entries : pool.entries ⊆ e.pool.entries) :
    e.Works { e with pool } :=
  ⟨⟨0, draws_zero rfl rfl entries⟩, .inl rfl⟩

theorem works_transport (e : Endpoint) (transport : Transport) : e.Works { e with transport } :=
  ⟨⟨0, draws_zero rfl rfl (List.Subset.refl _)⟩, .inl rfl⟩

theorem works_registry (e : Endpoint) (registry : Registry) : e.Works { e with registry } :=
  ⟨⟨0, draws_zero rfl rfl (List.Subset.refl _)⟩, .inl rfl⟩

theorem works_counters (e : Endpoint) (counters : Counters) : e.Works { e with counters } :=
  ⟨⟨0, draws_zero rfl rfl (List.Subset.refl _)⟩, .inl rfl⟩

theorem works_askStop (e : Endpoint) : e.Works { e with supervisor := e.supervisor.stop } :=
  ⟨⟨0, draws_zero rfl rfl (List.Subset.refl _)⟩, .inr rfl⟩

theorem works_notes (e : Endpoint) {notes : List Note} (idle : notes.filterMap Note.requested? = []) :
    e.Works { e with notes := e.notes ++ notes } :=
  ⟨⟨0, draws_zero rfl (by simp [handedOut, idle]) (List.Subset.refl _)⟩, .inl rfl⟩

theorem works_note (e : Endpoint) {x : Note} (idle : x.requested? = none) : e.Works (e.note x) :=
  e.works_notes (by simp [idle])

/-! ### Calls -/

theorem works_leave (e : Endpoint) (ticket : Nat) (id : Id) : e.Works (e.leave ticket id) := by
  have fewer : (e.pool.leave ticket id).2.entries ⊆ e.pool.entries :=
    PendingPool.entries_cancel { e.pool with slots := e.pool.slots.erase ticket } id
  unfold leave
  split
  all_goals
    rename_i left
    rw [left] at fewer
  · exact (e.works_pool fewer).trans (works_note _ rfl)
  · exact e.works_pool fewer

theorem works_drop (e : Endpoint) (call : Call) : e.Works (e.drop call) := by
  cases call with
  | waiting id ticket => exact e.works_leave ticket id
  | _ => exact .refl e

theorem works_poll (e : Endpoint) (call : Call) : e.Works (e.poll call).2.2 := by
  cases call with
  | waiting id ticket =>
    rw [poll_waiting]
    split
    · exact e.works_pool (List.Subset.refl _)
    · exact .refl e
  | _ => exact .refl e

theorem works_expire (e : Endpoint) (t : Timer) : e.Works (e.expire t) := by
  have fewer : (e.pool.expire t).2.entries ⊆ e.pool.entries :=
    PendingPool.entries_finish
      { e.pool with timers := e.pool.timers.filter (·.ticket != t.ticket) } t.id _
  unfold expire
  split
  all_goals
    rename_i ended
    rw [ended] at fewer
  · exact (e.works_pool fewer).trans (works_note _ rfl)
  · exact e.works_pool fewer

theorem works_notify (e : Endpoint) (method : String) (params : Option Value) :
    e.Works (e.notify method params).2 := by
  have noted : e.Works (e.note (.notifying method)) := e.works_note rfl
  simp only [notify]
  split
  · exact noted.trans (works_transport _ _)
  · exact noted

/-- A request that enters the pool has the next id. -/
theorem draws_entered (e : Endpoint) (now : Nat) (method : String) (params : Option Value)
    (timeout : Option Duration) (resultType : String) :
    e.Draws 1 (e.entered now method params timeout resultType) where
  ids := rfl
  handedOut := by simp [handedOut, entered, note, Note.requested?, IdSource.takeMany]
  entries p mem := by
    simp only [entered, PendingPool.enter, List.mem_append, List.mem_singleton] at mem
    refine mem.imp_right fun new => ?_
    simp [new, PendingRequest.id, IdSource.takeMany]

theorem works_request (e : Endpoint) (now : Nat) (method : String) (params : Option Value)
    (timeout : Option Duration) (resultType : String) :
    e.Works (e.request now method params timeout resultType).2 := by
  have entered : e.Works (e.entered now method params timeout resultType) :=
    ⟨⟨1, e.draws_entered now method params timeout resultType⟩, .inl rfl⟩
  rcases e.request_cases now method params timeout resultType with
    ⟨-, same⟩ | ⟨-, p, -, same⟩ | ⟨-, -, transport, -, same⟩ | ⟨-, -, err, -, same⟩
  all_goals rw [same]
  · exact .refl e
  · -- The id is used up, though nothing waits under it.
    refine ⟨⟨1, rfl, ?_, fun q mem => .inl mem⟩, .inl rfl⟩
    simp [handedOut, note, Note.requested?, IdSource.takeMany]
  · exact entered.trans (works_transport _ transport)
  · exact entered.trans (works_leave _ _ _)

theorem works_resolve (e : Endpoint) (service : ServiceDescriptor) (method : MethodDescriptor) :
    e.Works (e.resolve service method).2 :=
  e.works_registry _

theorem works_launch (e : Endpoint) (now : Nat) (what : Launch) : e.Works (e.launch now what).2 := by
  cases what with
  | plain method params timeout resultType => exact e.works_request now method params timeout resultType
  | mapped client service method args =>
    have resolved := e.works_resolve service method
    rw [launch]
    generalize e.resolve service method = x at resolved
    obtain ⟨err | m, e'⟩ := x
    · exact resolved
    · simp only
      split
      · exact resolved
      · split
        · exact resolved
        · exact resolved.trans (works_request ..)

theorem works_announce (e : Endpoint) (what : Launch) : e.Works (e.announce what).2 := by
  cases what with
  | plain method params _ _ => exact e.works_notify method params
  | mapped _ service method args =>
    have resolved := e.works_resolve service method
    rw [announce]
    generalize e.resolve service method = x at resolved
    obtain ⟨err | m, e'⟩ := x
    · exact resolved
    · simp only
      split
      · exact resolved
      · exact resolved.trans (works_notify ..)

/-! ### Messages -/

theorem works_reply (e : Endpoint) (r : Response) : e.Works (e.reply r) := by
  unfold reply
  split
  · exact e.works_transport _
  · exact e.works_note rfl

theorem works_resolveResponse (e : Endpoint) (r : Response) : e.Works (e.resolveResponse r).2 := by
  have fewer : (e.pool.resolve r).2.entries ⊆ e.pool.entries := e.pool.entries_finish r.id r.result
  unfold resolveResponse
  split
  · rename_i resolved
    rw [resolved] at fewer
    exact (e.works_pool fewer).trans (works_note _ rfl)
  · exact e.works_note rfl

theorem works_takeResponse (e : Endpoint) (r : Response) : e.Works (e.takeResponse r) := by
  have resolved := e.works_resolveResponse r
  rw [takeResponse]
  generalize e.resolveResponse r = x at resolved
  obtain ⟨_ | _, e'⟩ := x
  · exact resolved.trans (works_counters _ _)
  · exact resolved

theorem works_handle (e : Endpoint) (m : Message) : e.Works (e.handle m).1 := by
  cases m with
  | notification n =>
    simp only [handle, dispatchNotification]
    split
    · exact (e.works_note rfl).trans (works_counters _ _)
    · exact .refl e
  | request r =>
    simp only [handle, dispatchRequest]
    split
    · exact e.works_reply _
    · split
      · exact (e.works_note rfl).trans (works_reply _ _)
      · exact .refl e
  | response r => exact e.works_takeResponse r

theorem works_handleFrame (e : Endpoint) (frame : Frame) : e.Works (e.handleFrame frame).1 := by
  unfold handleFrame
  split
  · exact e.works_note rfl
  · split
    · exact e.works_handle _
    · simp only
      split
      · exact (e.works_note rfl).trans (works_reply _ _)
      · exact e.works_note rfl

theorem works_finish (e : Endpoint) (origin : Origin) (ending : Ending) :
    e.Works (e.finish origin ending) := by
  unfold finish
  split
  · exact (e.works_note rfl).trans (works_reply _ _)
  · exact e.works_reply _
  · exact (e.works_note rfl).trans (works_counters _ _)
  · exact .refl e

/-! ### What owners ask -/

theorem works_failAll (e : Endpoint) (err : RpcError) : e.Works { e with pool := e.pool.failAll err } :=
  e.works_pool (e.pool.entries_failAll err)

theorem works_stop (e : Endpoint) : e.Works e.stop :=
  (e.works_failAll .interrupted).trans (works_askStop _)

theorem works_release (e : Endpoint) : e.Works e.release :=
  e.works_askStop.trans (works_transport _ _)

theorem works_register (e : Endpoint) (entry : Registry.Entry) :
    e.Works (Session.register e entry).2 :=
  (e.works_notes (e.registry.requested_register entry)).trans (works_registry _ _)

theorem works_pop (e : Endpoint) (id : Id) (outcome : Option Outcome) :
    e.Works (Session.pop e id outcome).2 := by
  rw [Session.pop, PendingPool.pop]
  cases found : e.pool.find? id with
  | none => exact .refl e
  | some p =>
    cases outcome with
    | none => exact e.works_pool (e.pool.entries_close p .abandoned)
    | some outcome => exact e.works_pool (e.pool.entries_close p (.filled outcome))

theorem works_consult (e : Endpoint) (what : Session.Ask) : e.Works (Session.consult e what).2 := by
  cases what with
  | notify launch => exact e.works_announce launch
  | register entry => exact e.works_register entry
  | pop id outcome => exact e.works_pop id outcome
  | resolve message =>
    rw [Session.consult, Session.resolve]
    split
    · exact .refl e
    · exact e.works_resolveResponse _
    · exact .refl e
  | failAll err => exact e.works_failAll err
  | stop => exact e.works_stop
  | failPosts failure => exact e.works_transport _
  | _ => exact .refl e

end Endpoint

end DuplexRpc

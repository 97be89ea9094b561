import DuplexRpc.Network.Task
import DuplexRpc.Service

/-! The runs of scripts. A run goes from step to step, whatever the steps are told, until it has an
outcome or panics. The parameters that do not fit a handler are an error before its own code runs. -/

namespace DuplexRpc

namespace Script

/-- A run of the script `s` can come to another script. -/
inductive Leads (s : Script) : Script → Prop where
  | start : Leads s s
  | log {entry : Value} {next : Script} (here : Leads s (.log entry next)) : Leads s next
  | wait {gate : String} {next : Opening → Script} (here : Leads s (.wait gate next)) (o : Opening) :
      Leads s (next o)
  | request {launch : Launch} {next : Outcome → Script} (here : Leads s (.request launch next))
      (o : Outcome) : Leads s (next o)
  | notify {launch : Launch} {next : Except RpcError Unit → Script}
      (here : Leads s (.notify launch next)) (r : Except RpcError Unit) : Leads s (next r)
  | look {next : EndpointView → Script} (here : Leads s (.look next)) (v : EndpointView) :
      Leads s (next v)

theorem leads_done {outcome : Outcome} {s : Script} (h : Leads (.done outcome) s) :
    s = .done outcome := by
  induction h with
  | start => rfl
  | log _ ih | wait _ _ ih | request _ _ ih | notify _ _ ih | look _ _ ih => cases ih

/-- A run that ended with the script `last` has the outcome: a panic and a result that cannot be
encoded are internal errors, and any other error is the handler's own. -/
structure Gives (last : Script) (outcome : Outcome) : Prop where
  ends : (∃ o, last = .done o) ∨ ∃ payload, last = .panic payload
  panics : ∀ payload, last = .panic payload → ∃ e, outcome = .error e ∧ e.kind = .internalError
  fails : ∀ e, last = .fail e → outcome = .error e
  returns : ∀ d v, last = .return_ d → d.encode = .ok v → outcome = .ok v
  unencodable : ∀ d f, last = .return_ d → d.encode = .error f →
    ∃ e, outcome = .error e ∧ e.kind = .internalError

theorem gives_done (outcome : Outcome) : Gives (.done outcome) outcome where
  ends := Or.inl ⟨outcome, rfl⟩
  panics := nofun
  fails e same := Script.done.inj same
  returns d v same encoded := by
    rw [Script.done.inj same, encodeResult, encoded]
    rfl
  unencodable d f same refused := by
    rw [Script.done.inj same, encodeResult, refused]
    exact ⟨_, rfl, rfl⟩

theorem gives_panic (payload : PanicPayload) : Gives (.panic payload) (.error (.ofPanic payload)) where
  ends := Or.inr ⟨payload, rfl⟩
  panics _ _ := by
    refine ⟨_, rfl, ?_⟩
    cases payload <;> rfl
  fails := nofun
  returns := nofun
  unencodable := nofun

end Script

theorem kind_of_decodeParam {α : Type} {d : Decoder α} {v : Value} {m : Mismatch} (name : String)
    (misfit : d.ofValue v = .error m) :
    ∃ e, decodeParam d name v = .error e ∧ e.kind = .invalidParams := by
  rw [decodeParam, misfit]
  exact ⟨_, rfl, rfl⟩

namespace Script

/-- A script that reads its arguments one by one comes to one that does not fit its type. -/
inductive Rejects (args : List Value) : Script → Prop where
  | here {α : Type} (place : Nat) (label : String) (d : Decoder α) (next : α → Script) (m : Mismatch)
      (misfit : d.ofValue (args[place]?.getD .null) = .error m) :
      Rejects args (.argument args place label d next)
  | later {α : Type} (place : Nat) (label : String) (d : Decoder α) (next : α → Script) (a : α)
      (fits : d.ofValue (args[place]?.getD .null) = .ok a) (rest : Rejects args (next a)) :
      Rejects args (.argument args place label d next)

theorem Rejects.fails {args : List Value} {s : Script} (rejects : Rejects args s) :
    ∃ e, s = .fail e ∧ e.kind = .invalidParams := by
  induction rejects with
  | here place label d next m misfit =>
    obtain ⟨e, refused, kind⟩ := kind_of_decodeParam label misfit
    refine ⟨e, ?_, kind⟩
    rw [argument, decode, refused]
    rfl
  | later place label d next a fits rest ih =>
    obtain ⟨e, fails, kind⟩ := ih
    refine ⟨e, ?_, kind⟩
    have read : decodeParam d label (args[place]?.getD .null) = .ok a := by
      rw [decodeParam, fits]
      rfl
    rw [argument, decode, read, ← fails]
    rfl

end Script

namespace Handler

/-- The parameters do not fit the handler: a function cannot read them, or a declared method cannot
unpack its arguments or read one of them. -/
inductive Misfits (ctx : Context) (params : Option Value) : Handler → Prop where
  | function {α : Type} (d : Decoder α) (f : Context → α → Script) (m : Mismatch)
      (misfit : d.ofValue (params.getD .null) = .error m) : Misfits ctx params (.ofFunction d f)
  | shape (mapping : MethodMapping) (f : Context → List Value → Script) (e : RpcError)
      (misfit : mapping.unpack params = .error e) : Misfits ctx params (.ofMapping mapping f)
  | argument (mapping : MethodMapping) (f : Context → List Value → Script) (args : List Value)
      (unpacked : mapping.unpack params = .ok args) (rejects : (f ctx args).Rejects args) :
      Misfits ctx params (.ofMapping mapping f)

theorem kind_of_unpack {mapping : MethodMapping} {params : Option Value} {e : RpcError}
    (misfit : mapping.unpack params = .error e) : e.kind = .invalidParams := by
  unfold MethodMapping.unpack Packing.unpack at misfit
  split at misfit
  all_goals cases misfit
  rfl

variable {ctx : Context} {params : Option Value} {h : Handler}

/-- A handler that the parameters do not fit fails at once. -/
theorem Misfits.fails (misfits : h.Misfits ctx params) :
    ∃ e, h ctx params = .fail e ∧ e.kind = .invalidParams := by
  cases misfits with
  | function d f m misfit =>
    obtain ⟨e, refused, kind⟩ := kind_of_decodeParam "params" misfit
    refine ⟨e, ?_, kind⟩
    rw [ofFunction, Script.decode, refused]
    rfl
  | shape mapping f e misfit =>
    refine ⟨e, ?_, kind_of_unpack misfit⟩
    rw [ofMapping, misfit]
    rfl
  | argument mapping f args unpacked rejects =>
    obtain ⟨e, fails, kind⟩ := rejects.fails
    refine ⟨e, ?_, kind⟩
    rw [ofMapping, unpacked, Script.ofExcept, fails]

/-- Whatever a handler does, parameters that do not fit it are an error. -/
theorem Misfits.outcome (misfits : h.Misfits ctx params) {last : Script} {outcome : Outcome}
    (leads : (h ctx params).Leads last) (gives : last.Gives outcome) :
    ∃ e, outcome = .error e ∧ e.kind = .invalidParams := by
  obtain ⟨e, fails, kind⟩ := misfits.fails
  rw [fails] at leads
  exact ⟨e, gives.fails e (Script.leads_done leads), kind⟩

end Handler

namespace Stand

/-- The task runs the script `s`, whatever it is told where it waits. -/
def From (s : Script) : Stand → Prop
  | .going next => s.Leads next
  | .atGate _ next => ∀ o, s.Leads (next o)
  | .awaiting _ next => ∀ o, s.Leads (next o)

end Stand

end DuplexRpc

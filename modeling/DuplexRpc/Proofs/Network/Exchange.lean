import DuplexRpc.Proofs.Network.Answering
import DuplexRpc.Proofs.Network.Moves

/-! The invariant of two endpoints that are joined by queues. Each side asks and answers, and what a
side posted is what the other side handled, followed by what is on its way. -/

namespace DuplexRpc

theorem Trace.append_empty (t : Trace) : t.append {} = t := by
  simp only [append, List.append_nil]

theorem Message.requests_carried (ms : List Message) :
    (ms.map Message.carried).filterMap Message.request? =
      (ms.filterMap Message.request?).map Request.carried := by
  rw [List.filterMap_map, List.map_filterMap]
  congr 1
  funext m
  cases m <;> rfl

theorem Message.responses_carried (ms : List Message) :
    (ms.map Message.carried).filterMap Message.response? =
      (ms.filterMap Message.response?).map Response.carried := by
  rw [List.filterMap_map, List.map_filterMap]
  congr 1
  funext m
  cases m <;> rfl

namespace Course

variable {codec : Codec} {sources : Side → IdSource}
  {handlers : Side → List (String × Handler)} {c : Course}

/-- The invariant. -/
structure Exchanges (codec : Codec) (sources : Side → IdSource)
    (handlers : Side → List (String × Handler)) (c : Course) : Prop where
  live : c.net.Live codec
  numbered : c.net.Numbered
  asking : ∀ side, Asking (sources side) (c.net.endpoint side) (c.trace side)
  answering : ∀ side,
    Answering (handlers side) (c.net.endpoint side) (c.net.at_ side).tasks (c.trace side)
  linked : ∀ side, ∃ past onWay, (c.trace side).posted = past ++ onWay ∧
    (c.trace side.other).handled = past.map Message.carried ∧
    c.net.leaving side = onWay.map codec.encode

/-- All that was posted can be carried. -/
def Fits (codec : Codec) (c : Course) : Prop :=
  ∀ side, ∀ m ∈ (c.trace side).posted, codec.Fits m.layout

theorem fits_iff : c.Fits codec ↔ (∀ m ∈ (c.trace .a).posted, codec.Fits m.layout) ∧
    ∀ m ∈ (c.trace .b).posted, codec.Fits m.layout := by
  constructor
  · intro h
    exact ⟨h .a, h .b⟩
  · rintro ⟨a, b⟩ side
    cases side
    · exact a
    · exact b

instance (codec : Codec) (c : Course) : Decidable (c.Fits codec) :=
  decidable_of_iff _ fits_iff.symm

/-! ### Steps -/

/-- An act that takes place at no endpoint is not seen. -/
theorem observe_eq_empty (live : c.net.Live codec) {act : Network.Act} (h : act.side? = none) :
    c.net.observe .a act = {} := by
  cases act with
  | go agent => cases agent <;> cases h
  | openGate ticket opening =>
    have after : ((c.net.act (.openGate ticket opening)).at_ .a).tasks.map Task.tag =
        (c.net.at_ .a).tasks.map Task.tag := by
      have passed := Network.at_openGate live.paired ticket opening .a
      refine (congrArg (fun n : Node => n.tasks.map Task.tag) passed).trans ?_
      exact (Task.Advance.map fun t _ => t.follows_open ticket opening).tags
    simp only [Network.observe, Network.seen, Task.freshFrom_of_tags after,
      Task.freshFrom_of_tags after.symm]
    rfl
  | pass span =>
    have after : ((c.net.act (.pass span)).at_ .a).tasks.map Task.tag =
        (c.net.at_ .a).tasks.map Task.tag := rfl
    simp only [Network.observe, Network.seen, Task.freshFrom_of_tags after,
      Task.freshFrom_of_tags after.symm]
    rfl
  | _ => cases h

/-- One more act moves the network, and adds what is seen of it to the trace of one side. -/
theorem Exchanges.moves (h : Exchanges codec sources handlers c) (fits : c.Fits codec)
    (act : Network.Act) :
    ∃ side new, Network.Moves codec c.net (c.step act).net side new ∧
      (c.step act).trace side = (c.trace side).append new ∧
      (c.step act).trace side.other = c.trace side.other := by
  have readable : ∀ side, ∀ frame ∈ c.net.leaving side, ∃ m, codec.decode frame = .ok m := by
    intro side frame hf
    obtain ⟨past, onWay, posted, -, leaving⟩ := h.linked side
    rw [leaving] at hf
    obtain ⟨m, hm, rfl⟩ := List.mem_map.mp hf
    exact ⟨_, Codec.decode_encode (fits side m (posted ▸ List.mem_append_right past hm))⟩
  cases hs : act.side? with
  | some side =>
    have goes := h.live.goes h.numbered act
    rw [hs, Option.getD_some] at goes
    refine ⟨side, _, h.live.moves h.numbered (readable _) goes, ?_, ?_⟩
    · simp only [step, hs, if_true]
      rfl
    · have other : some side ≠ some side.other := by cases side <;> decide
      simp only [step, hs, if_neg other]
  | none =>
    have goes := h.live.goes h.numbered act
    rw [hs, Option.getD_none] at goes
    have moves := h.live.moves h.numbered (readable _) goes
    have unseen : c.net.seen (c.net.act act) .a (c.net.deed .a act) = {} :=
      observe_eq_empty h.live hs
    rw [unseen] at moves
    refine ⟨.a, {}, moves, ?_, ?_⟩
    · simp only [step, hs, reduceCtorEq, if_false, Trace.append_empty]
    · simp only [step, hs, reduceCtorEq, if_false]

/-- A response that a side handled carries the outcome of a request of this side. -/
theorem Exchanges.settled (h : Exchanges codec sources handlers c) {side : Side} {r : Response}
    (hr : r ∈ (c.trace side).answers) :
    ∃ p ∈ (c.trace side).requests, p.id = r.id ∧ ∃ outcome,
      (c.trace side.other).Settles (handlers side.other) p.carried outcome ∧
      r.result = Outcome.carried outcome := by
  obtain ⟨back, backOnWay, sentBack, handledBack, -⟩ := h.linked side.other
  obtain ⟨past, onWay, posted, handled, -⟩ := h.linked side
  rw [side.other_other] at handledBack
  rw [Trace.answers, handledBack, Message.responses_carried] at hr
  obtain ⟨sent, hs, rfl⟩ := List.mem_map.mp hr
  have mem : sent ∈ (c.trace side.other).responses := by
    rw [Trace.responses, sentBack, List.filterMap_append]
    exact List.mem_append_left _ hs
  obtain ⟨q, hq, same, settles⟩ := (h.answering side.other).settled sent mem
  rw [Trace.asked, handled, Message.requests_carried] at hq
  obtain ⟨p, hp, rfl⟩ := List.mem_map.mp hq
  refine ⟨p, ?_, same, _, settles, rfl⟩
  rw [Trace.requests, posted, List.filterMap_append]
  exact List.mem_append_left _ hp

theorem Exchanges.step (h : Exchanges codec sources handlers c) (fits : c.Fits codec)
    (act : Network.Act) : Exchanges codec sources handlers (c.step act) := by
  obtain ⟨side, new, moves, here, there⟩ := h.moves fits act
  obtain ⟨e, happening, after⟩ := moves.here
  refine ⟨moves.live, moves.numbered, fun side' => ?_, fun side' => ?_, fun side' => ?_⟩
  · rcases side.eq_or_eq_other side' with rfl | rfl
    · rw [here, after]
      refine ((h.asking side').step happening fun r hr => ?_).via _
      obtain ⟨p, hp, same, -⟩ := h.settled hr
      exact ⟨p, hp, same⟩
    · rw [there, moves.there]
      exact (h.asking side.other).via _
  · rcases side.eq_or_eq_other side' with rfl | rfl
    · rw [here, after]
      exact ((h.answering side').step happening).via _ (.refl _)
    · rw [there, moves.there]
      exact (h.answering side.other).via _ moves.advance
  · rcases side.eq_or_eq_other side' with rfl | rfl
    · obtain ⟨past, onWay, posted, handled, leaving⟩ := h.linked side'
      refine ⟨past, onWay ++ new.posted, ?_, ?_, ?_⟩
      · rw [here, Trace.posted_append, posted, List.append_assoc]
      · rw [there, handled]
      · rw [moves.sent, leaving, List.map_append]
    · obtain ⟨past, onWay, posted, handled, leaving⟩ := h.linked side.other
      obtain ⟨frames, taken, decoded⟩ := moves.took
      rw [leaving] at taken
      obtain ⟨first, rest, rfl, sent, left⟩ := List.map_eq_append_iff.mp taken
      have received : new.handled = first.map Message.carried := by
        have read : first.map (fun m => codec.decode (codec.encode m)) =
            first.map (fun m => .ok m.carried) := by
          refine List.map_congr_left fun m hm => Codec.decode_encode (fits side.other m ?_)
          rw [posted]
          exact List.mem_append_right _ (List.mem_append_left _ hm)
        rw [← sent, List.map_map] at decoded
        have same : new.handled.map Except.ok =
            (first.map Message.carried).map (Except.ok (ε := RpcError)) := by
          rw [List.map_map]
          exact decoded.symm.trans read
        exact (List.map_inj_right fun _ _ => Except.ok.inj).mp same
      refine ⟨past ++ first, rest, ?_, ?_, ?_⟩
      · rw [there, posted, List.append_assoc]
      · rw [side.other_other] at handled ⊢
        rw [here, Trace.handled_append, handled, received, List.map_append]
      · exact left.symm

/-! ### Runs -/

theorem Fits.of_step {act : Network.Act} (h : (c.step act).Fits codec) : c.Fits codec := by
  intro side m hm
  refine h side m ?_
  simp only [Course.step]
  split
  · exact List.mem_append_left _ hm
  · exact hm

theorem Fits.of_run {acts : List Network.Act} (h : (c.run acts).Fits codec) : c.Fits codec := by
  induction acts generalizing c with
  | nil => exact h
  | cons act acts ih => exact (ih h).of_step

theorem Exchanges.run (h : Exchanges codec sources handlers c) (acts : List Network.Act)
    (fits : (c.run acts).Fits codec) : Exchanges codec sources handlers (c.run acts) := by
  induction acts generalizing c with
  | nil => exact h
  | cons act acts ih =>
    have next : (c.step act).Fits codec := Fits.of_run fits
    exact ih (h.step next.of_step act) fits

/-- The requests that a side handled are requests that the other side posted. -/
theorem Exchanges.asked_sublist (h : Exchanges codec sources handlers c) (side : Side) :
    (c.trace side.other).asked.Sublist ((c.trace side).requests.map Request.carried) := by
  obtain ⟨past, onWay, posted, handled, -⟩ := h.linked side
  rw [Trace.asked, handled, Message.requests_carried, Trace.requests, posted, List.filterMap_append,
    List.map_append]
  exact List.sublist_append_left _ _

theorem exchanges_of_connect {a b : Setup} {net : Network}
    (connected : Network.connect a b = .ok net) :
    Exchanges a.config.codec (fun side => (net.endpoint side).ids)
      (fun side => (net.endpoint side).registry.requests) { net } := by
  rw [Network.connect] at connected
  split at connected
  · rename_i same
    obtain rfl := Except.ok.inj connected
    refine ⟨⟨rfl, rfl, fun side => ?_⟩, ⟨fun side => ?_, fun side => ?_⟩, fun side => ?_,
      fun side => ?_, fun side => ?_⟩
    · cases side
      · exact ⟨rfl, rfl, rfl, rfl, rfl, rfl, [], rfl⟩
      · exact ⟨rfl, rfl, rfl, rfl, rfl, same.symm, [], by rw [same]; rfl⟩
    · cases side <;> exact fun _ ht => absurd ht List.not_mem_nil
    · cases side <;> exact List.nodup_nil
    · cases side <;> exact .fresh _ rfl rfl rfl
    · cases side <;> exact .fresh _
    · cases side <;> exact ⟨[], [], rfl, rfl, rfl⟩
  · cases connected

end Course

end DuplexRpc

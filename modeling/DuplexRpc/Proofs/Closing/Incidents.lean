import DuplexRpc.Proofs.Closing.Loops

/-! What all that can happen in a scene comes to: every node turns, so that what holds of a node goes
on to hold, and what is over stays over. -/

namespace DuplexRpc

open ByteStream

namespace Network

variable {net : Network} {side : Side} {held held' : Side → List (Nat × Id)} {n : Node}

theorem drifts_askNode (here : net.node? side = some n) (holding : n.isHeld = true)
    (what : Session.Ask) : net.Drifts held (Session.askNode net side n what).2 held := by
  have owned : ∀ m, net.node? side = some m → m.isHeld = true := by
    intro m there
    obtain rfl := Option.some.inj (here.symm.trans there)
    exact holding
  have consulted (what : Session.Ask) : net.Drifts held
      (net.mapNode side fun m => { m with endpoint := (Session.consult n.endpoint what).2 }) held :=
    drifts_at here ((net.stance side (held side) n).moves_consult n.endpoint what)
  unfold Session.askNode
  split
  · exact drifts_atEndpoint owned fun v e => v.moves_handleFrame e _
  · split
    · exact drifts_atEndpoint owned fun v e => v.moves_handle e _
    · exact .refl net held
  · exact drifts_at here (moves_letGo n (held side))
  · exact consulted what

theorem drifts_actFar (act : FarAct) : net.Drifts held (net.actFar act) held := by
  unfold actFar
  split
  · exact .refl net held
  · rename_i outside
    have closed : net.Drifts held (net.mapPipeFrom .b Pipe.closeWriter) held := drifts_closeWriter .b
    cases act with
    | write bytes => exact drifts_bytes .b fun _ _ => ⟨rfl, rfl⟩
    | shutdown => exact closed
    | drain => exact drifts_bytes .a fun _ _ => ⟨rfl, rfl⟩
    | close =>
      -- the end that is closed for reading belongs to no node of the network
      refine closed.trans (.of_same (node?_mapPipeFrom _) fun side n here => ?_)
      cases side with
      | a =>
        rw [stance_mapPipeFrom_self, Option.all_map]
        exact .refl
      | b =>
        rw [node?_mapPipeFrom] at here
        rw [show net.b = some n from here] at outside
        exact absurd rfl outside

theorem turns_cancel
    (regular : ∀ side n, net.node? side = some n → (net.stance side (held side) n).Regular)
    (side : Side) (loop : Loop) :
    net.Turns held (Incident.cancel side loop).IsLoop (net.cancel side loop) held := by
  have stays : net.Turns held (Incident.cancel side loop).IsLoop net held :=
    (Drifts.refl net held).turns
  unfold cancel
  split
  · exact stays
  · rename_i n here
    cases loop with
    | receiving =>
      simp only
      split
      · exact turns_endReceiving side
      · exact stays
    | writing =>
      simp only
      split
      · rename_i writing
        exact (drifts_endWriting side ((regular side n here).stream writing)).turns
      · exact stays
    | reading =>
      simp only
      split
      · exact (drifts_endReading side).turns
      · exact stays

end Network

namespace Scene

variable {s : Scene} {side : Side}

/-! ### Calls of callers -/

/-- The calls that are held without the one of a ticket. -/
theorem perm_forget {calls : List (Nat × Id)} {ticket : Nat} {id : Id}
    (apart : (calls.map Prod.fst).Nodup) (found : calls.lookup ticket = some id) :
    calls.Perm ((ticket, id) :: calls.filter (·.1 != ticket)) := by
  induction calls with
  | nil => cases found
  | cons c calls ih =>
    obtain ⟨t, i⟩ := c
    rw [List.map_cons, List.nodup_cons] at apart
    by_cases here : ticket = t
    · subst here
      rw [List.lookup_cons, beq_self_eq_true] at found
      obtain rfl := Option.some.inj found
      have others : calls.filter (·.1 != ticket) = calls := by
        refine List.filter_eq_self.mpr fun c hc => bne_iff_ne.mpr fun same => ?_
        have mem : c.1 ∈ calls.map Prod.fst := List.mem_map_of_mem hc
        exact apart.1 (same ▸ mem)
      rw [List.filter_cons, bne_self_eq_false, others]
      rfl
    · rw [List.lookup_cons, beq_false_of_ne here] at found
      rw [List.filter_cons, bne_iff_ne.mpr (Ne.symm here)]
      exact ((ih apart.2 found).cons _).trans (.swap _ _ _)

theorem held_hold_other (s : Scene) (side : Side) (calls : List (Nat × Id)) :
    (s.hold side calls).held side.other = s.held side.other := by
  cases side <;> rfl

theorem held_forget_other (s : Scene) (side : Side) (ticket : Nat) :
    (s.forget side ticket).held side.other = s.held side.other := by
  cases side <;> rfl

/-- A caller takes or drops a call that it holds. -/
theorem drifts_forget {more : Side → List (Nat × Id)} (h : s.Regular more) {ticket : Nat} {id : Id}
    (found : (s.held side).lookup ticket = some id) {f : Node → Node}
    (tasks : ∀ n, (f n).tasks = n.tasks)
    (moves : ∀ n, s.net.node? side = some n → ∀ calls,
      (s.net.stance side (s.held side ++ more side) n).calls.Perm ((ticket, id) :: calls) →
        (s.net.stance side (s.held side ++ more side) n).Moves
          { s.net.stance side (s.held side ++ more side) (f n) with calls }) :
    s.net.Drifts (fun x => s.held x ++ more x) (s.net.mapNode side f)
      (fun x => (s.forget side ticket).held x ++ more x) := by
  refine Network.drifts_mapNode side f
    (congrArg (· ++ more side.other) (s.held_forget_other side ticket)) fun n here => ?_
  have apart := (h side n here).apart
  simp only [Network.stance, List.append_assoc] at apart
  rw [List.map_append, List.nodup_append] at apart
  have left : (s.forget side ticket).held side = (s.held side).filter (·.1 != ticket) := if_pos rfl
  refine moves n here
    ((s.forget side ticket).held side ++ more side ++ (f n).tasks.filterMap Task.key?) ?_
  rw [left, tasks]
  exact ((perm_forget apart.1 found).append_right _).append_right _

theorem holder?_eq_some {n : Node} (found : s.holder? side = some n) :
    s.net.node? side = some n ∧ n.isHeld = true :=
  Option.filter_eq_some_iff.mp found

/-- Every node turns in an incident, whatever more calls there are beside those that callers and
tasks hold. -/
theorem Regular.turns_step {more : Side → List (Nat × Id)} (h : s.Regular more) (ev : Incident) :
    s.net.Turns (fun x => s.held x ++ more x) ev.IsLoop (s.step ev).net
      (fun x => (s.step ev).held x ++ more x) := by
  have stays : s.net.Turns (fun x => s.held x ++ more x) ev.IsLoop s.net
      (fun x => s.held x ++ more x) :=
    (Network.Drifts.refl s.net _).turns
  cases ev with
  | go agent => exact Network.turns_step h agent
  | launch side what =>
    simp only [step]
    split
    · rename_i n found
      obtain ⟨here, -⟩ := holder?_eq_some found
      refine (Network.drifts_mapNode side _
        (congrArg (· ++ more side.other) (s.held_hold_other side _)) fun m there => ?_).turns
      obtain rfl := Option.some.inj (here.symm.trans there)
      have launched := (s.net.stance side (s.held side ++ more side) n).moves_launch n.endpoint
        s.net.clock what (.refl _)
      have front (calls : List (Nat × Id)) :
          (s.hold side calls).held side ++ more side ++ n.tasks.filterMap Task.key? =
            calls ++ (s.held side ++ more side ++ n.tasks.filterMap Task.key?) := by
        rw [show (s.hold side calls).held side = calls ++ s.held side from if_pos rfl]
        simp only [List.append_assoc]
      simp only [Network.stance, front]
      exact launched
    · exact stays
  | run side script =>
    simp only [step]
    split
    · rename_i n found
      obtain ⟨here, holding⟩ := holder?_eq_some found
      refine (Network.drifts_spawn (fun m there => ?_) _ _).turns
      obtain rfl := Option.some.inj (here.symm.trans there)
      exact holding
    · exact stays
  | ask side what =>
    simp only [step]
    split
    · rename_i n found
      obtain ⟨here, holding⟩ := holder?_eq_some found
      exact (Network.drifts_askNode here holding what).turns
    · exact stays
  | poll side ticket =>
    simp only [step]
    split
    · rename_i n id here found
      split
      · rename_i outcome call e polled
        refine (drifts_forget h found (f := fun m => { m with endpoint := e }) (fun _ => rfl)
          fun m there calls perm => ?_).turns
        obtain rfl := Option.some.inj (here.symm.trans there)
        have moves := (s.net.stance side (s.held side ++ more side) n).moves_poll n.endpoint perm
          (congrArg Prod.fst polled)
        rwa [polled] at moves
      · exact stays
    · exact stays
  | drop side ticket =>
    simp only [step]
    split
    · rename_i id found
      refine (drifts_forget h found (f := (·.mapEndpoint (·.drop (.waiting id ticket))))
        (fun _ => rfl) fun n here calls perm => ?_).turns
      exact (s.net.stance side (s.held side ++ more side) n).moves_leave n.endpoint perm
    · exact stays
  | abort side serial =>
    exact (Network.drifts_abort (fun n here => (h side n here).serials) serial).turns
  | openGate ticket opening => exact (Network.drifts_openGate ticket opening).turns
  | pass span =>
    exact (Network.Drifts.of_later (fun side => by cases side <;> rfl) rfl (Nat.le_refl _)).turns
  | cancel side loop => exact Network.turns_cancel h side loop
  | far act => exact (Network.drifts_actFar act).turns

theorem Holds.regular (h : s.Holds) : s.Regular fun _ => [] := by
  intro side n here
  rw [List.append_nil]
  exact (h side n here).toRegular

theorem turns_step (h : s.Holds) (ev : Incident) :
    s.net.Turns s.held ev.IsLoop (s.step ev).net (s.step ev).held := by
  have turns := h.regular.turns_step ev
  simp only [List.append_nil] at turns
  exact turns

/-! ### Runs -/

/-- Every node of a scene and what became of it later. -/
def Later (s s' : Scene) : Prop :=
  s.net.Nodewise s'.net fun side n n' => (s.stance side n).Later (s'.stance side n')

theorem Holds.step (h : s.Holds) (ev : Incident) : (s.step ev).Holds ∧ s.Later (s.step ev) := by
  have turns := turns_step h ev
  refine ⟨fun side n' here => ?_, Network.Nodewise.mono turns fun side n n' here turn => ?_⟩
  · obtain ⟨n, there, turn⟩ := Network.Nodewise.origin turns here
    exact ((h side n there).turn turn).1
  · exact ((h side n here).turn turn).2

theorem Holds.run (h : s.Holds) (events : List Incident) :
    (s.run events).Holds ∧ s.Later (s.run events) := by
  induction events generalizing s with
  | nil => exact ⟨h, .of_same (fun _ => rfl) fun side n _ => .refl (s.stance side n)⟩
  | cons ev events ih =>
    obtain ⟨h', later⟩ := h.step ev
    obtain ⟨h'', later'⟩ := ih h'
    exact ⟨h'', Network.Nodewise.trans later later' fun _ _ _ _ => Stance.Later.trans⟩

end Scene

end DuplexRpc

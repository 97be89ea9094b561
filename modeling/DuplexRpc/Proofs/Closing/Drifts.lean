import DuplexRpc.Proofs.Closing.Scene
import DuplexRpc.Proofs.Network.Live

/-! What each operation of a network comes to in moves of its nodes. -/

namespace DuplexRpc

open ByteStream

/-! ### Calls of tasks -/

namespace Task

variable {t : Task} {tasks : List Task}

theorem key?_open (t : Task) (ticket : Nat) (opening : Opening) :
    (t.open_ ticket opening).key? = t.key? := by
  unfold open_
  split
  · rename_i atGate
    split
    · simp only [key?, atGate]
    · rfl
  · rfl

theorem serial_open (t : Task) (ticket : Nat) (opening : Opening) :
    (t.open_ ticket opening).serial = t.serial := by
  unfold open_
  split
  · split <;> rfl
  · rfl

theorem keys_open (tasks : List Task) (ticket : Nat) (opening : Opening) :
    (tasks.map (·.open_ ticket opening)).filterMap key? = tasks.filterMap key? := by
  have same : key? ∘ (·.open_ ticket opening) = key? := funext fun t => t.key?_open ticket opening
  rw [List.filterMap_map, same]

/-- The calls of all tasks but one, whose serial number no other task has. -/
theorem keys_perm (mem : t ∈ tasks) (apart : (tasks.map serial).Nodup) :
    (tasks.filterMap key?).Perm
      (t.key?.toList ++ (tasks.filter (·.serial != t.serial)).filterMap key?) := by
  have split := (perm_filter mem apart).1.filterMap key?
  rw [List.filterMap_cons] at split
  cases here : t.key? <;> rw [here] at split <;> exact split

/-- A task stands elsewhere: its call alone changes. -/
theorem keys_setStand (mem : t ∈ tasks) (apart : (tasks.map serial).Nodup) (stand : Stand) :
    ((tasks.map fun u => if u.serial = t.serial then { u with stand } else u).filterMap key?).Perm
      (({ t with stand } : Task).key?.toList ++
        (tasks.filter (·.serial != t.serial)).filterMap key?) := by
  let set (u : Task) : Task := if u.serial = t.serial then { u with stand } else u
  have serials : (tasks.map set).map serial = tasks.map serial := by
    rw [List.map_map]
    refine List.map_congr_left fun u _ => ?_
    simp only [Function.comp, set]
    split <;> rfl
  have here : set t = { t with stand } := if_pos rfl
  have there : { t with stand } ∈ tasks.map set := here ▸ List.mem_map_of_mem mem
  have others : (tasks.map set).filter (·.serial != t.serial) =
      tasks.filter (·.serial != t.serial) := by
    rw [List.filter_map]
    have same : (tasks.filter fun u => (set u).serial != t.serial) =
        tasks.filter (·.serial != t.serial) := by
      refine List.filter_congr fun u _ => ?_
      simp only [set]
      split <;> rfl
    refine (congrArg (List.map set) same).trans ((List.map_congr_left fun u hu => ?_).trans
      (List.map_id _))
    have other := (List.mem_filter.mp hu).2
    rw [bne_iff_ne] at other
    exact if_neg other
  have split := keys_perm there (serials ▸ apart)
  rwa [others] at split

end Task

/-! ### Parts of a network -/

namespace Network

variable {net net' net'' : Network} {side : Side}

theorem node?_mapNode_self (f : Node → Node) :
    (net.mapNode side f).node? side = (net.node? side).map f := by
  cases side <;> rfl

theorem node?_mapNode_other (f : Node → Node) :
    (net.mapNode side f).node? side.other = net.node? side.other := by
  cases side <;> rfl

theorem stance_mapNode (f : Node → Node) : (net.mapNode side f).stance = net.stance := by
  cases side <;> rfl

theorem node?_mapPipeFrom (f : Pipe → Pipe) (other : Side) :
    (net.mapPipeFrom side f).node? other = net.node? other := by
  unfold mapPipeFrom
  split <;> rfl

theorem medium_mapPipeFrom (f : Pipe → Pipe) :
    (net.mapPipeFrom side f).link.medium = net.link.medium := by
  obtain ⟨a, b, link, gates, nextSerial, clock, log, endings, queue⟩ := net
  cases link <;> cases side <;> rfl

theorem nextSerial_mapPipeFrom (f : Pipe → Pipe) :
    (net.mapPipeFrom side f).nextSerial = net.nextSerial := by
  unfold mapPipeFrom
  split <;> rfl

theorem pipeFrom?_mapPipeFrom_self (f : Pipe → Pipe) :
    (net.mapPipeFrom side f).pipeFrom? side = (net.pipeFrom? side).map f := by
  obtain ⟨a, b, link, gates, nextSerial, clock, log, endings, queue⟩ := net
  cases link <;> cases side <;> rfl

theorem pipeFrom?_mapPipeFrom_other (f : Pipe → Pipe) :
    (net.mapPipeFrom side f).pipeFrom? side.other = net.pipeFrom? side.other := by
  obtain ⟨a, b, link, gates, nextSerial, clock, log, endings, queue⟩ := net
  cases link <;> cases side <;> rfl

/-- The stance of a node after a change to the pipe that it writes to. -/
theorem stance_mapPipeFrom_self (f : Pipe → Pipe) (held : List (Nat × Id)) (n : Node) :
    (net.mapPipeFrom side f).stance side held n =
      { net.stance side held n with
        outOver := ((net.pipeFrom? side).map f).all (·.writerGone) } := by
  simp only [stance, medium_mapPipeFrom, nextSerial_mapPipeFrom, pipeFrom?_mapPipeFrom_self,
    pipeFrom?_mapPipeFrom_other]

/-- The stance of a node after a change to the pipe that it reads from. -/
theorem stance_mapPipeFrom_other (side : Side) (f : Pipe → Pipe) (held : List (Nat × Id)) (n : Node) :
    (net.mapPipeFrom side f).stance side.other held n =
      { net.stance side.other held n with
        inOver := ((net.pipeFrom? side).map f).all (·.readerGone) } := by
  simp only [stance, medium_mapPipeFrom, nextSerial_mapPipeFrom, pipeFrom?_mapPipeFrom_self,
    pipeFrom?_mapPipeFrom_other, Side.other_other]

/-! ### Nodes and what became of them -/

/-- Every node of a network and what became of it are related. -/
def Nodewise (net net' : Network) (R : Side → Node → Node → Prop) : Prop :=
  ∀ side, Option.Rel (R side) (net.node? side) (net'.node? side)

section

variable {R R' R'' : Side → Node → Node → Prop}

theorem Nodewise.node (h : net.Nodewise net' R) {n : Node} (here : net.node? side = some n) :
    ∃ n', net'.node? side = some n' ∧ R side n n' := by
  have rel := h side
  rw [here] at rel
  cases there : net'.node? side with
  | none => rw [there] at rel; cases rel
  | some n' =>
    rw [there] at rel
    cases rel with
    | some r => exact ⟨n', rfl, r⟩

/-- No node comes from nowhere. -/
theorem Nodewise.origin (h : net.Nodewise net' R) {n' : Node} (here : net'.node? side = some n') :
    ∃ n, net.node? side = some n ∧ R side n n' := by
  have rel := h side
  rw [here] at rel
  cases there : net.node? side with
  | none => rw [there] at rel; cases rel
  | some n =>
    rw [there] at rel
    cases rel with
    | some r => exact ⟨n, rfl, r⟩

theorem Nodewise.trans (h : net.Nodewise net' R) (h' : net'.Nodewise net'' R')
    (join : ∀ side n n' n'', R side n n' → R' side n' n'' → R'' side n n'') :
    net.Nodewise net'' R'' := by
  intro side
  cases here : net.node? side with
  | none =>
    cases there : net''.node? side with
    | none => exact .none
    | some n'' =>
      obtain ⟨n', there', -⟩ := h'.origin there
      obtain ⟨n, here', -⟩ := h.origin there'
      rw [here] at here'
      cases here'
  | some n =>
    obtain ⟨n', here', r⟩ := h.node here
    obtain ⟨n'', here'', r'⟩ := h'.node here'
    rw [here'']
    exact .some (join side n n' n'' r r')

theorem Nodewise.of_same (nodes : ∀ side, net'.node? side = net.node? side)
    (each : ∀ side n, net.node? side = some n → R side n n) : net.Nodewise net' R := by
  intro side
  rw [nodes]
  cases here : net.node? side with
  | none => exact .none
  | some n => exact .some (each side n here)

theorem Nodewise.mono (h : net.Nodewise net' R)
    (weaken : ∀ side n n', net.node? side = some n → R side n n' → R' side n n') :
    net.Nodewise net' R' :=
  (Nodewise.of_same (R := fun side n n' => n = n' ∧ net.node? side = some n) (fun _ => rfl)
    fun _ _ here => ⟨rfl, here⟩).trans h fun side _ _ n'' same r => by
      obtain ⟨rfl, here⟩ := same
      exact weaken side _ n'' here r

theorem nodewise_mapNode (side : Side) {f : Node → Node}
    (self : ∀ n, net.node? side = some n → R side n (f n))
    (other : ∀ n, net.node? side.other = some n → R side.other n n) :
    net.Nodewise (net.mapNode side f) R := by
  intro side'
  rcases Side.eq_or_eq_other side side' with rfl | rfl
  · rw [node?_mapNode_self]
    cases here : net.node? side' with
    | none => exact .none
    | some n => exact .some (self n here)
  · rw [node?_mapNode_other]
    cases here : net.node? side.other with
    | none => exact .none
    | some n => exact .some (other n here)

theorem nodewise_mapNode_eq (side : Side) (f : Node → Node) :
    net.Nodewise (net.mapNode side f) fun other n n' => n' = if other = side then f n else n :=
  nodewise_mapNode side (fun _ _ => (if_pos rfl).symm) fun _ _ => (if_neg side.other_ne).symm

end

/-! ### Drifts -/

/-- The nodes of a network move, and callers hold other calls. -/
def Drifts (net : Network) (held : Side → List (Nat × Id)) (net' : Network)
    (held' : Side → List (Nat × Id)) : Prop :=
  net.Nodewise net' fun side n n' =>
    (net.stance side (held side) n).Moves (net'.stance side (held' side) n')

variable {held held' held'' : Side → List (Nat × Id)}

theorem Drifts.refl (net : Network) (held : Side → List (Nat × Id)) : net.Drifts held net held :=
  .of_same (fun _ => rfl) fun _ _ _ => .refl

theorem Drifts.trans (h : net.Drifts held net' held') (h' : net'.Drifts held' net'' held'') :
    net.Drifts held net'' held'' :=
  Nodewise.trans h h' fun _ _ _ _ => Relation.ReflTransGen.trans

/-- Serial numbers are used up, and something changes that no stance shows. -/
theorem Drifts.of_later (nodes : ∀ side, net'.node? side = net.node? side)
    (link : net'.link = net.link) (le : net.nextSerial ≤ net'.nextSerial) :
    net.Drifts held net' held := by
  refine .of_same nodes fun side n _ => ?_
  have next : net'.stance side (held side) n =
      { net.stance side (held side) n with next := net'.nextSerial } := by
    simp only [stance, pipeFrom?, link]
  rw [next]
  exact .single (.tick le)

/-- One node moves, and the calls that are held at the other stay. -/
theorem drifts_mapNode (side : Side) (f : Node → Node)
    (others : held' side.other = held side.other)
    (moves : ∀ n, net.node? side = some n →
      (net.stance side (held side) n).Moves (net.stance side (held' side) (f n))) :
    net.Drifts held (net.mapNode side f) held' := by
  refine nodewise_mapNode side (fun n here => ?_) fun n here => ?_
  · rw [stance_mapNode]
    exact moves n here
  · rw [stance_mapNode, others]

/-- A node changes in what its stance does not show. -/
theorem drifts_mapNode_same (side : Side) {f : Node → Node}
    (same : ∀ n, net.stance side (held side) (f n) = net.stance side (held side) n) :
    net.Drifts held (net.mapNode side f) held := by
  refine drifts_mapNode side f rfl fun n _ => ?_
  rw [same]

/-- The node and the other one after a change to a pipe: only the ends of the pipe count. -/
theorem drifts_mapPipeFrom (side : Side) {f : Pipe → Pipe}
    (reader : ∀ pipe ∈ net.pipeFrom? side, (f pipe).readerGone = pipe.readerGone)
    (moves : ∀ n, net.node? side = some n → (net.stance side (held side) n).Moves
      ((net.mapPipeFrom side f).stance side (held side) n)) :
    net.Drifts held (net.mapPipeFrom side f) held := by
  refine .of_same (node?_mapPipeFrom f) fun side' n here => ?_
  rcases Side.eq_or_eq_other side side' with rfl | rfl
  · exact moves n here
  · have same : ((net.pipeFrom? side).map f).all (·.readerGone) =
        (net.pipeFrom? side).all (·.readerGone) := by
      cases pipe : net.pipeFrom? side with
      | none => rfl
      | some pipe' => exact reader pipe' pipe
    have unchanged : net.stance side.other (held side.other) n =
        { net.stance side.other (held side.other) n with
          inOver := (net.pipeFrom? side).all (·.readerGone) } := by
      simp only [stance, Side.other_other]
    rw [stance_mapPipeFrom_other, same, ← unchanged]

/-- Bytes come into a pipe or leave it. -/
theorem drifts_bytes (side : Side) {f : Pipe → Pipe}
    (ends : ∀ pipe ∈ net.pipeFrom? side, (f pipe).readerGone = pipe.readerGone ∧
      (f pipe).writerGone = pipe.writerGone) : net.Drifts held (net.mapPipeFrom side f) held := by
  refine drifts_mapPipeFrom side (fun pipe hp => (ends pipe hp).1) fun n _ => ?_
  have same : ((net.pipeFrom? side).map f).all (·.writerGone) =
      (net.pipeFrom? side).all (·.writerGone) := by
    cases pipe : net.pipeFrom? side with
    | none => rfl
    | some pipe' => exact (ends pipe' pipe).2
  rw [stance_mapPipeFrom_self, same]
  exact .refl

theorem drifts_closeWriter (side : Side) :
    net.Drifts held (net.mapPipeFrom side Pipe.closeWriter) held := by
  refine drifts_mapPipeFrom side (fun _ _ => rfl) fun n _ => ?_
  have gone : ((net.pipeFrom? side).map Pipe.closeWriter).all (·.writerGone) = true := by
    cases net.pipeFrom? side <;> rfl
  rw [stance_mapPipeFrom_self, gone]
  exact .single .closeOut

/-! ### Loops that end -/

theorem medium_mapNode (f : Node → Node) :
    (net.mapNode side f).link.medium = net.link.medium := by
  rw [link_mapNode]

theorem detach_eq {n : Node} (here : net.node? side = some n) :
    net.detach side = bif n.isDetached then
      (net.mapPipeFrom side Pipe.closeWriter).mapPipeFrom side.other Pipe.closeReader else net := by
  rw [detach, here]
  cases detached : n.isDetached <;> simp only [detached, cond_true, cond_false, if_true,
    Bool.false_eq_true, if_false]

/-- A node that no longer uses the stream closes both of its ends. -/
theorem stance_detach_self (held : List (Nat × Id)) {n : Node} (here : net.node? side = some n) :
    (net.detach side).stance side held n =
      { net.stance side held n with
        outOver := (net.stance side held n).outOver || n.isDetached
        inOver := (net.stance side held n).inOver || n.isDetached } := by
  rw [detach_eq here]
  cases n.isDetached with
  | false => simp only [cond_false, Bool.or_false]
  | true =>
    have out : ∀ pipe? : Option Pipe, (pipe?.map Pipe.closeWriter).all (·.writerGone) = true := by
      intro pipe?
      cases pipe? <;> rfl
    have in_ : ∀ pipe? : Option Pipe, (pipe?.map Pipe.closeReader).all (·.readerGone) = true := by
      intro pipe?
      cases pipe? <;> rfl
    have read := (net.mapPipeFrom side Pipe.closeWriter).stance_mapPipeFrom_other side.other
      Pipe.closeReader held n
    rw [Side.other_other] at read
    simp only [cond_true, Bool.or_true, read, stance_mapPipeFrom_self, out, in_]

/-- The other node uses the other ends. -/
theorem stance_detach_other (held : List (Nat × Id)) {n m : Node} (here : net.node? side = some n) :
    (net.detach side).stance side.other held m = net.stance side.other held m := by
  rw [detach_eq here]
  cases n.isDetached with
  | false => rfl
  | true =>
    simp only [cond_true, stance_mapPipeFrom_self, stance_mapPipeFrom_other,
      pipeFrom?_mapPipeFrom_other, Option.all_map, Pipe.closeWriter, Pipe.closeReader]
    simp only [stance, Side.other_other]

theorem node?_detach (other : Side) : (net.detach side).node? other = net.node? other := by
  cases here : net.node? side with
  | none => simp only [detach, here]
  | some n =>
    rw [detach_eq here]
    cases n.isDetached with
    | false => rfl
    | true => simp only [cond_true, node?_mapPipeFrom]

/-- The change of a node whose loop ended, who may no longer use the stream. -/
theorem drifts_mapNode_detach (side : Side) (f : Node → Node)
    (moves : ∀ n, net.node? side = some n → (net.stance side (held side) n).Moves
      { net.stance side (held side) (f n) with
        outOver := (net.stance side (held side) n).outOver || (f n).isDetached
        inOver := (net.stance side (held side) n).inOver || (f n).isDetached }) :
    net.Drifts held ((net.mapNode side f).detach side) held := by
  have self (n : Node) (here : net.node? side = some n) :
      (net.mapNode side f).node? side = some (f n) := by
    rw [node?_mapNode_self, here]
    rfl
  have detached (R : Side → Node → Node → Prop) (h : net.Nodewise (net.mapNode side f) R) :
      net.Nodewise ((net.mapNode side f).detach side) R := by
    intro other
    rw [node?_detach]
    exact h other
  refine detached _ (nodewise_mapNode side (fun n here => ?_) fun n here => ?_)
  · rw [stance_detach_self _ (self n here), stance_mapNode]
    exact moves n here
  · cases near : net.node? side with
    | none =>
      have none : (net.mapNode side f).node? side = .none := by
        rw [node?_mapNode_self, near]
        rfl
      simp only [detach, none, stance_mapNode]
      exact .refl
    | some m => rw [stance_detach_other _ (self m near), stance_mapNode]

theorem drifts_endWriting (side : Side) (stream : net.link.medium = .stream) :
    net.Drifts held (net.endWriting side) held := by
  refine drifts_mapNode_detach side Node.endWriting fun n _ => ?_
  have detached : n.endWriting.isDetached = !n.reader.isSome := by
    cases n with
    | mk endpoint held tasks sentinel receiving inbox writer reader faults => cases reader <;> rfl
  rw [detached]
  exact .single (.endWriting stream)

theorem drifts_endReading (side : Side) : net.Drifts held (net.endReading side) held := by
  refine drifts_mapNode_detach side Node.endReading fun n _ => ?_
  have detached : n.endReading.isDetached = !n.writer.isSome := by
    cases n with
    | mk endpoint held tasks sentinel receiving inbox writer reader faults => cases writer <;> rfl
  rw [detached]
  exact .single .endReading

end Network

end DuplexRpc

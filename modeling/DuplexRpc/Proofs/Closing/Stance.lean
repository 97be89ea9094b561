import DuplexRpc.Network.Basic
import DuplexRpc.Proofs.Pending.Pool
import Mathlib.Logic.Relation

/-! What counts of a node for the way it ends, and the moves of which all that happens to a node is
made: a pool and the calls that wait for it, the loops, and who still holds the endpoint. `Holds` is
kept by every move. Once the node is `Over` no move adds an entry, and the calls that are left have
their outcomes, which stay as they are. -/

namespace DuplexRpc

namespace PendingPool

variable {pool : PendingPool} {p : PendingRequest} {slot : Slot} {ticket t : Nat} {id : Id}

/-- The outcome that is there for the caller of a ticket. -/
def outcome? (pool : PendingPool) (ticket : Nat) : Option Outcome :=
  (pool.slots.find? ticket).bind Slot.outcome?

/-- The caller of a ticket has a slot. -/
def HasSlot (pool : PendingPool) (ticket : Nat) : Prop :=
  (pool.slots.find? ticket).isSome = true

/-- The caller of a ticket keeps its slot, and the outcome if it is there. -/
structure Keeps (pool pool' : PendingPool) (t : Nat) : Prop where
  slot : pool.HasSlot t → pool'.HasSlot t
  outcome : ∀ o, pool.outcome? t = some o → pool'.outcome? t = some o

theorem Keeps.trans {pool' pool'' : PendingPool} (h : pool.Keeps pool' t) (h' : pool'.Keeps pool'' t) :
    pool.Keeps pool'' t :=
  ⟨h'.slot ∘ h.slot, fun o there => h'.outcome o (h.outcome o there)⟩

theorem keeps_of_same {pool' : PendingPool} (same : pool'.slots.find? t = pool.slots.find? t) :
    pool.Keeps pool' t := by
  refine ⟨fun has => ?_, fun o there => ?_⟩
  · rw [HasSlot, same]
    exact has
  · rw [outcome?, same]
    exact there

/-- A slot that is settled may be vacant, and any other stays as it is. -/
theorem keeps_of_settled {pool' : PendingPool}
    (settled : pool'.slots.find? t = (pool.slots.find? t).map slot.settled) :
    pool.Keeps pool' t := by
  refine ⟨fun has => ?_, fun o there => ?_⟩
  · rw [HasSlot, settled, Option.isSome_map]
    exact has
  · rw [outcome?] at there
    rw [outcome?, settled]
    match here : pool.slots.find? t with
    | none | some .vacant =>
      rw [here] at there
      cases there
    | some (.filled _) | some .abandoned =>
      rw [here] at there
      exact there

theorem keeps_close : pool.Keeps (pool.close p slot) t := by
  by_cases same : t = p.ticket
  · exact keeps_of_settled (same ▸ slot_close_self)
  · exact keeps_of_same (slot_close_of_ne same)

theorem keeps_eraseSlot (other : t ≠ ticket) :
    pool.Keeps { pool with slots := pool.slots.erase ticket } t :=
  keeps_of_same (Slots.find?_erase_of_ne other)

theorem keeps_leave (other : t ≠ ticket) : pool.Keeps (pool.leave ticket id).2 t := by
  cases found : pool.find? id with
  | none =>
    rw [leave_of_find?_none found]
    exact keeps_eraseSlot other
  | some p =>
    rw [leave_of_find? found]
    exact (keeps_eraseSlot other).trans keeps_close

theorem Sound.keeps_failAll (sound : pool.Sound) (e : RpcError) : pool.Keeps (pool.failAll e) t :=
  keeps_of_settled (sound.slot_failAll e t)

theorem keeps_enter (r : Request) (resultType : String) (deadline : Option Nat) :
    pool.Keeps (pool.enter r resultType deadline) t := by
  refine ⟨fun has => ?_, fun o there => ?_⟩
  · rw [HasSlot, enter, Slots.find?_append_single, Option.isSome_or, show _ = true from has,
      Bool.true_or]
  · rw [outcome?] at there
    obtain ⟨s, here, _⟩ := Option.bind_eq_some_iff.mp there
    rw [outcome?, enter, Slots.find?_append_single, here, Option.some_or, ← here]
    exact there

theorem Sound.lt_of_hasSlot (sound : pool.Sound) (h : pool.HasSlot t) : t < pool.nextTicket := by
  rcases Nat.lt_or_ge t pool.nextTicket with early | late
  · exact early
  · rw [HasSlot, sound.fresh t late] at h
    cases h

theorem hasSlot_enter_self (r : Request) (resultType : String) (deadline : Option Nat) :
    (pool.enter r resultType deadline).HasSlot pool.nextTicket := by
  rw [HasSlot, enter, Slots.find?_append_single, if_pos rfl, Option.isSome_or]
  exact Bool.or_true _

/-- A slot whose entry is gone is not empty. -/
theorem Sound.outcome?_isSome (sound : pool.Sound) (gone : ∀ p ∈ pool.entries, p.ticket ≠ t)
    (h : pool.HasSlot t) : (pool.outcome? t).isSome = true := by
  rw [HasSlot] at h
  rw [outcome?]
  match here : pool.slots.find? t with
  | none =>
    rw [here] at h
    cases h
  | some .vacant =>
    obtain ⟨p, mem, ticket⟩ := sound.vacant t here
    exact absurd ticket (gone p mem)
  | some (.filled _) => rfl
  | some .abandoned => rfl

/-- Who had no outcome is interrupted. -/
theorem Sound.outcome?_failAll (sound : pool.Sound) (h : pool.HasSlot t) :
    (pool.failAll .interrupted).outcome? t =
      some ((pool.outcome? t).getD (.error .interrupted)) := by
  rw [HasSlot] at h
  rw [outcome?, outcome?, sound.slot_failAll]
  match here : pool.slots.find? t with
  | none =>
    rw [here] at h
    cases h
  | some .vacant => rfl
  | some (.filled _) => rfl
  | some .abandoned => rfl

/-- Who waits gets the outcome that there is. -/
theorem Sound.outcome?_close (sound : pool.Sound) (mem : p ∈ pool.entries) {o : Outcome}
    (has : (pool.close p (.filled o)).HasSlot p.ticket) :
    (pool.close p (.filled o)).outcome? p.ticket = some o := by
  rw [HasSlot, slot_close_self, Option.isSome_map] at has
  obtain ⟨s, here⟩ := Option.isSome_iff_exists.mp has
  obtain rfl := sound.waits p mem s here
  rw [outcome?, slot_close_self, here]
  rfl

/-- Who had no outcome gets the one with which its slot is settled. -/
theorem outcome_of_settled {pool' : PendingPool} {o outcome : Outcome}
    (settled : pool'.slots.find? t = (pool.slots.find? t).map (Slot.filled outcome).settled)
    (waits : pool.outcome? t = none) (there : pool'.outcome? t = some o) : o = outcome := by
  rw [outcome?] at waits
  rw [outcome?, settled] at there
  match here : pool.slots.find? t with
  | none =>
    rw [here] at there
    cases there
  | some .vacant =>
    rw [here] at there
    exact (Option.some.inj there).symm
  | some (.filled _) | some .abandoned =>
    rw [here] at waits
    cases waits

/-- Who had no outcome gets that of the request that is finished. -/
theorem outcome?_finish {o outcome : Outcome} (waits : pool.outcome? t = none)
    (there : (pool.finish id outcome).2.outcome? t = some o) : o = outcome := by
  cases found : pool.find? id with
  | none =>
    rw [finish_of_find?_none found, waits] at there
    cases there
  | some p =>
    rw [finish_of_find? found] at there
    by_cases same : t = p.ticket
    · subst same
      exact outcome_of_settled slot_close_self waits there
    · rw [outcome?, slot_close_of_ne same] at there
      rw [outcome?, there] at waits
      cases waits

theorem find?_of_empty (empty : pool.entries = []) (id : Id) : pool.find? id = none := by
  rw [find?, empty, List.find?_nil]

theorem failAll_of_empty (empty : pool.entries = []) (e : RpcError) : pool.failAll e = pool := by
  rw [failAll, empty, List.foldl_nil]

end PendingPool

/-- No more frames are put into the queue; nobody waits for those of a record. -/
def Transport.isOver : Transport → Bool
  | .recorder _ _ => true
  | .queue _ _ box => box.senderGone

theorem Transport.isOver_mapBox {f : Mailbox → Mailbox}
    (keeps : ∀ box, (f box).senderGone = box.senderGone) (t : Transport) :
    (t.mapBox f).isOver = t.isOver := by
  cases t with
  | recorder _ _ => rfl
  | queue _ _ box => exact keeps box

theorem Transport.isOver_post {t t' : Transport} {m : Message} (h : t.post m = .ok t') :
    t'.isOver = t.isOver := by
  match t with
  | .recorder _ none => rw [← Except.ok.inj h]; rfl
  | .recorder _ (some _) => cases h
  | .queue codec limit box =>
    rw [post] at h
    split at h
    · cases h
    · cases sent : box.send? (codec.encode m) with
      | none => rw [sent] at h; cases h
      | some box' =>
        rw [sent] at h
        rw [← Except.ok.inj h]
        rw [Mailbox.send?] at sent
        split at sent
        · cases sent
        · rw [← Option.some.inj sent]
          rfl

theorem Transport.isOver_failWith (t : Transport) (failure : Option RpcError) :
    (t.failWith failure).isOver = t.isOver := by
  cases t <;> rfl

/-- The format of the frames in a queue. -/
def Transport.codec? : Transport → Option Codec
  | .recorder _ _ => none
  | .queue codec _ _ => some codec

theorem Transport.codec?_mapBox (t : Transport) (f : Mailbox → Mailbox) :
    (t.mapBox f).codec? = t.codec? := by
  cases t <;> rfl

theorem Transport.codec?_post {t t' : Transport} {m : Message} (h : t.post m = .ok t') :
    t'.codec? = t.codec? := by
  match t with
  | .recorder _ none => rw [← Except.ok.inj h]; rfl
  | .recorder _ (some _) => cases h
  | .queue codec limit box =>
    rw [post] at h
    split at h
    · cases h
    · split at h
      · rw [← Except.ok.inj h]
        rfl
      · cases h

theorem Transport.codec?_failWith (t : Transport) (failure : Option RpcError) :
    (t.failWith failure).codec? = t.codec? := by
  cases t <;> rfl

/-- What joins a node to others. -/
inductive Medium where
  | none
  | queues
  | stream
deriving DecidableEq, Repr

def Link.medium : Link → Medium
  | .none => .none
  | .queues => .queues
  | .stream _ _ => .stream

/-- What counts of a node for the way it ends. -/
structure Stance where
  medium : Medium
  codec : Codec
  pool : PendingPool
  stopped : Bool
  transport : Transport
  /-- The calls that callers and tasks hold, by ticket and id. -/
  calls : List (Nat × Id)
  /-- The serial numbers of the tasks, and the next one. -/
  serials : List Nat
  next : Nat
  isHeld : Bool
  receiving : Bool
  writing : Bool
  reading : Bool
  /-- Nothing more comes into the inbox. -/
  inboxOver : Bool
  /-- The node writes to the stream no more, and reads from it no more. -/
  outOver : Bool
  inOver : Bool

namespace Stance

/-- The endpoint is stopped, and no request waits. -/
def Over (v : Stance) : Prop :=
  v.stopped = true ∧ v.pool.entries = []

/-- The loop that handles frames ends. -/
def shut (v : Stance) : Stance :=
  { v with receiving := false, stopped := true, pool := v.pool.failAll .interrupted }

/-- What can happen to a node, except that its loop for frames ends. -/
inductive Move (v : Stance) : Stance → Prop
  | post {m : Message} {t : Transport} (posted : v.transport.post m = .ok t) :
      Move v { v with transport := t }
  | failPosts (failure : Option RpcError) :
      Move v { v with transport := v.transport.failWith failure }
  | stop : Move v { v with stopped := true }
  | enter (r : Request) (resultType : String) (deadline : Option Nat) {calls : List (Nat × Id)}
      (live : v.stopped = false) (free : v.pool.find? r.id = none)
      (perm : calls.Perm ((v.pool.nextTicket, r.id) :: v.calls)) :
      Move v { v with pool := v.pool.enter r resultType deadline, calls }
  | close {p : PendingRequest} {slot : Slot} (mem : p ∈ v.pool.entries) (settled : slot ≠ .vacant) :
      Move v { v with pool := v.pool.close p slot }
  | take {ticket : Nat} {id : Id} {calls : List (Nat × Id)}
      (perm : v.calls.Perm ((ticket, id) :: calls)) :
      Move v { v with pool := { v.pool with slots := v.pool.slots.erase ticket }, calls }
  | leave {ticket : Nat} {id : Id} {calls : List (Nat × Id)}
      (perm : v.calls.Perm ((ticket, id) :: calls)) :
      Move v { v with pool := (v.pool.leave ticket id).2, calls }
  | shuffle {calls : List (Nat × Id)} (perm : v.calls.Perm calls) : Move v { v with calls }
  | failAll (e : RpcError) : Move v { v with pool := v.pool.failAll e }
  | spawn (held : v.isHeld = true) :
      Move v { v with serials := v.serials ++ [v.next], next := v.next + 1 }
  | tick {next : Nat} (le : v.next ≤ next) : Move v { v with next }
  | retire {serials : List Nat} (sub : serials.Sublist v.serials) : Move v { v with serials }
  | release :
      Move v { v with
        isHeld := false
        stopped := true
        transport := v.transport.mapBox fun box => { box with senderGone := true } }
  | unload {f : Mailbox → Mailbox} (stream : v.medium = .stream)
      (keeps : ∀ box, (f box).senderGone = box.senderGone) :
      Move v { v with transport := v.transport.mapBox f }
  | closeOut : Move v { v with outOver := true }
  | endWriting (stream : v.medium = .stream) :
      Move v { v with
        writing := false
        stopped := true
        transport := v.transport.mapBox Mailbox.close
        outOver := v.outOver || !v.reading
        inOver := v.inOver || !v.reading }
  | endReading :
      Move v { v with
        reading := false
        inboxOver := true
        outOver := v.outOver || !v.writing
        inOver := v.inOver || !v.writing }

/-- Moves one after the other. -/
abbrev Moves : Stance → Stance → Prop :=
  Relation.ReflTransGen Move

/-- What holds of every node that can be reached, however far a call or the end of a loop got. -/
structure Regular (v : Stance) : Prop where
  pool : v.pool.Sound
  apart : (v.calls.map Prod.fst).Nodup
  slot : ∀ c ∈ v.calls, v.pool.HasSlot c.1
  serials : v.serials.Nodup
  below : ∀ k ∈ v.serials, k < v.next
  released : v.isHeld = false → v.stopped = true ∧ v.transport.isOver = true
  wired : v.medium ≠ .stream → v.writing = false
  drained : v.medium = .stream → v.reading = false → v.inboxOver = true
  unplugged : v.writing = false → v.reading = false → v.outOver = true ∧ v.inOver = true
  queued : v.medium ≠ .none → v.transport.codec? = some v.codec

/-- What holds of every node that can be reached where calls and the ends of loops are done at
once. -/
structure Holds (v : Stance) : Prop extends v.Regular where
  ended : v.medium ≠ .none → v.receiving = false → v.Over

variable {v v' v'' : Stance}

theorem Regular.stream (h : v.Regular) (writing : v.writing = true) : v.medium = .stream :=
  Decidable.byContradiction fun other => absurd (h.wired other) (by rw [writing]; exact nofun)

/-! ### Pools and calls -/

theorem Regular.perm {ticket : Nat} {id : Id} {calls : List (Nat × Id)} (h : v.Regular)
    (perm : v.calls.Perm ((ticket, id) :: calls)) :
    (calls.map Prod.fst).Nodup ∧ (∀ c ∈ calls, c ∈ v.calls) ∧ ∀ c ∈ calls, c.1 ≠ ticket := by
  have apart := (perm.map Prod.fst).nodup_iff.mp h.apart
  rw [List.map_cons, List.nodup_cons] at apart
  refine ⟨apart.2, fun c hc => perm.mem_iff.mpr (List.mem_cons_of_mem _ hc), fun c hc same => ?_⟩
  exact apart.1 (List.mem_map.mpr ⟨c, hc, same⟩)

/-- The entries and the calls that are as old as the stance `v` were there before, and an outcome
stays until it is taken. A stopped endpoint stays so. -/
structure Ages (v v' : Stance) : Prop where
  tickets : v.pool.nextTicket ≤ v'.pool.nextTicket
  entries : ∀ p ∈ v'.pool.entries, p ∈ v.pool.entries ∨ v.pool.nextTicket ≤ p.ticket
  calls : ∀ c ∈ v'.calls, c.1 < v.pool.nextTicket → c ∈ v.calls ∧ v.pool.Keeps v'.pool c.1
  stopped : v.stopped = true → v'.stopped = true

theorem Ages.refl (v : Stance) : v.Ages v :=
  ⟨Nat.le_refl _, fun _ => .inl, fun _ hc _ => ⟨hc, id, fun _ => id⟩, id⟩

theorem Ages.trans (h : v.Ages v') (h' : v'.Ages v'') : v.Ages v'' where
  tickets := Nat.le_trans h.tickets h'.tickets
  entries p hp := by
    rcases h'.entries p hp with old | new
    · exact h.entries p old
    · exact .inr (Nat.le_trans h.tickets new)
  calls c hc old := by
    obtain ⟨hc', keeps'⟩ := h'.calls c hc (Nat.lt_of_lt_of_le old h.tickets)
    obtain ⟨hc'', keeps⟩ := h.calls c hc' old
    exact ⟨hc'', keeps.trans keeps'⟩
  stopped stopped := h'.stopped (h.stopped stopped)

/-- A stopped endpoint has no new calls, and what is over stays over. -/
structure Later (v v' : Stance) : Prop extends v.Ages v' where
  closed : v.stopped = true → v'.pool.nextTicket = v.pool.nextTicket
  past : v.Over → v'.Over
  receiving : v'.receiving = true → v.receiving = true
  medium : v'.medium = v.medium
  codec : v'.codec = v.codec

theorem Later.refl (v : Stance) : v.Later v :=
  ⟨.refl v, fun _ => rfl, id, id, rfl, rfl⟩

theorem Later.trans (h : v.Later v') (h' : v'.Later v'') : v.Later v'' where
  toAges := h.toAges.trans h'.toAges
  closed stopped := (h'.closed (h.stopped stopped)).trans (h.closed stopped)
  past past := h'.past (h.past past)
  receiving running := h.receiving (h'.receiving running)
  medium := h'.medium.trans h.medium
  codec := h'.codec.trans h.codec

/-- A request that is entered has a new ticket, and every call keeps its slot. -/
theorem Regular.calls_enter (h : v.Regular) {r : Request} (resultType : String)
    (deadline : Option Nat) {calls : List (Nat × Id)} (free : v.pool.find? r.id = none)
    (perm : calls.Perm ((v.pool.nextTicket, r.id) :: v.calls)) :
    (v.pool.enter r resultType deadline).Sound ∧ (calls.map Prod.fst).Nodup ∧
      ∀ c ∈ calls, c ∈ v.calls ∧ v.pool.Keeps (v.pool.enter r resultType deadline) c.1 ∨
        c.1 = v.pool.nextTicket ∧ (v.pool.enter r resultType deadline).HasSlot c.1 := by
  refine ⟨h.pool.enter resultType deadline free, ?_, fun c hc => ?_⟩
  · rw [(perm.map Prod.fst).nodup_iff, List.map_cons, List.nodup_cons]
    refine ⟨fun mem => ?_, h.apart⟩
    obtain ⟨c, hc, same⟩ := List.mem_map.mp mem
    have old := h.pool.lt_of_hasSlot (h.slot c hc)
    omega
  · rcases List.mem_cons.mp (perm.mem_iff.mp hc) with rfl | hc
    · exact .inr ⟨rfl, PendingPool.hasSlot_enter_self r resultType deadline⟩
    · exact .inl ⟨hc, PendingPool.keeps_enter r resultType deadline⟩

/-- The pool stays sound, every call keeps its slot, and the call that is made has a new ticket. -/
theorem Regular.calls_move (h : v.Regular) (move : v.Move v') :
    v'.pool.Sound ∧ (v'.calls.map Prod.fst).Nodup ∧ v.pool.nextTicket ≤ v'.pool.nextTicket ∧
      ∀ c ∈ v'.calls, c ∈ v.calls ∧ v.pool.Keeps v'.pool c.1 ∨
        c.1 = v.pool.nextTicket ∧ v'.pool.HasSlot c.1 := by
  have same : ∀ c ∈ v.calls, c ∈ v.calls ∧ v.pool.Keeps v.pool c.1 ∨
      c.1 = v.pool.nextTicket ∧ v.pool.HasSlot c.1 :=
    fun c hc => .inl ⟨hc, id, fun _ => id⟩
  cases move with
  | enter r resultType deadline live free perm =>
    obtain ⟨sound, apart, calls⟩ := h.calls_enter resultType deadline free perm
    exact ⟨sound, apart, Nat.le_succ _, calls⟩
  | close mem settled =>
    exact ⟨h.pool.close mem settled, h.apart, Nat.le_refl _,
      fun c hc => .inl ⟨hc, PendingPool.keeps_close⟩⟩
  | take perm =>
    obtain ⟨apart, old, other⟩ := h.perm perm
    exact ⟨h.pool.eraseSlot _, apart, Nat.le_refl _,
      fun c hc => .inl ⟨old c hc, PendingPool.keeps_eraseSlot (other c hc)⟩⟩
  | leave perm =>
    obtain ⟨apart, old, other⟩ := h.perm perm
    exact ⟨h.pool.leave _ _, apart, Nat.le_of_eq (PendingPool.nextTicket_leave _ _).symm,
      fun c hc => .inl ⟨old c hc, PendingPool.keeps_leave (other c hc)⟩⟩
  | shuffle perm =>
    exact ⟨h.pool, (perm.map Prod.fst).nodup_iff.mp h.apart, Nat.le_refl _,
      fun c hc => same c (perm.mem_iff.mpr hc)⟩
  | failAll e =>
    exact ⟨h.pool.failAll e, h.apart, Nat.le_of_eq (PendingPool.nextTicket_failAll e).symm,
      fun c hc => .inl ⟨hc, h.pool.keeps_failAll e⟩⟩
  | _ => exact ⟨h.pool, h.apart, Nat.le_refl _, same⟩

theorem Regular.serials_move (h : v.Regular) (move : v.Move v') :
    v'.serials.Nodup ∧ ∀ k ∈ v'.serials, k < v'.next := by
  cases move with
  | spawn held =>
    refine ⟨?_, fun k hk => ?_⟩
    · rw [List.nodup_append]
      refine ⟨h.serials, List.pairwise_singleton _ _, fun a ha b hb => ?_⟩
      have lt := h.below a ha
      rw [List.mem_singleton] at hb
      omega
    · rcases List.mem_append.mp hk with hk | hk
      · exact Nat.lt_succ_of_lt (h.below k hk)
      · rw [List.mem_singleton] at hk
        show k < v.next + 1
        omega
  | tick le => exact ⟨h.serials, fun k hk => Nat.lt_of_lt_of_le (h.below k hk) le⟩
  | retire sub => exact ⟨h.serials.sublist sub, fun k hk => h.below k (sub.subset hk)⟩
  | _ => exact ⟨h.serials, h.below⟩

/-- A stopped endpoint takes no more requests. -/
theorem over_move (past : v.Over) (move : v.Move v') : v'.Over := by
  obtain ⟨stopped, empty⟩ := past
  cases move with
  | enter r resultType deadline live free perm =>
    rw [stopped] at live
    cases live
  | close mem settled =>
    rw [empty] at mem
    cases mem
  | leave perm =>
    rw [Over, PendingPool.leave_of_find?_none (PendingPool.find?_of_empty empty _)]
    exact ⟨stopped, empty⟩
  | failAll e => exact ⟨stopped, by rw [PendingPool.failAll_of_empty empty]; exact empty⟩
  | stop | release | endWriting stream => exact ⟨rfl, empty⟩
  | _ => exact ⟨stopped, empty⟩

/-! ### What every move keeps -/

theorem Regular.released_move (h : v.Regular) (move : v.Move v') (gone : v'.isHeld = false) :
    v'.stopped = true ∧ v'.transport.isOver = true := by
  cases move with
  | post posted => exact ⟨(h.released gone).1, (Transport.isOver_post posted).trans (h.released gone).2⟩
  | failPosts failure =>
    exact ⟨(h.released gone).1, (Transport.isOver_failWith _ failure).trans (h.released gone).2⟩
  | stop => exact ⟨rfl, (h.released gone).2⟩
  | release =>
    refine ⟨rfl, ?_⟩
    cases v.transport <;> rfl
  | unload stream keeps =>
    exact ⟨(h.released gone).1, (Transport.isOver_mapBox keeps _).trans (h.released gone).2⟩
  | endWriting stream =>
    have keeps : ∀ box : Mailbox, box.close.senderGone = box.senderGone := fun _ => rfl
    exact ⟨rfl, (Transport.isOver_mapBox keeps _).trans (h.released gone).2⟩
  | _ => exact h.released gone

theorem Regular.unplugged_move (h : v.Regular) (move : v.Move v') (writing : v'.writing = false)
    (reading : v'.reading = false) : v'.outOver = true ∧ v'.inOver = true := by
  cases move with
  | closeOut => exact ⟨rfl, (h.unplugged writing reading).2⟩
  | endWriting _ =>
    have reading : v.reading = false := reading
    simp [reading]
  | endReading =>
    have writing : v.writing = false := writing
    simp [writing]
  | _ => exact h.unplugged writing reading

theorem receiving_move (move : v.Move v') : v'.receiving = v.receiving := by
  cases move <;> rfl

theorem medium_move (move : v.Move v') : v'.medium = v.medium := by
  cases move <;> rfl

theorem codec_move (move : v.Move v') :
    v'.codec = v.codec ∧ v'.transport.codec? = v.transport.codec? := by
  cases move with
  | post posted => exact ⟨rfl, Transport.codec?_post posted⟩
  | failPosts failure => exact ⟨rfl, Transport.codec?_failWith _ failure⟩
  | release | unload stream keeps | endWriting stream => exact ⟨rfl, Transport.codec?_mapBox _ _⟩
  | _ => exact ⟨rfl, rfl⟩

theorem Regular.move (h : v.Regular) (move : v.Move v') : v'.Regular := by
  obtain ⟨pool, apart, -, calls⟩ := h.calls_move move
  obtain ⟨serials, below⟩ := h.serials_move move
  refine ⟨pool, apart, fun c hc => ?_, serials, below, h.released_move move, fun other => ?_,
    fun stream done => ?_, h.unplugged_move move, fun joined => ?_⟩
  · rcases calls c hc with ⟨old, keeps⟩ | ⟨-, has⟩
    · exact keeps.slot (h.slot c old)
    · exact has
  · rw [medium_move move] at other
    have idle := h.wired other
    cases move <;> first | rfl | exact idle
  · rw [medium_move move] at stream
    cases move with
    | endReading => rfl
    | _ => exact h.drained stream done
  · obtain ⟨codec, carried⟩ := codec_move move
    rw [medium_move move] at joined
    rw [codec, carried]
    exact h.queued joined

theorem stopped_move (move : v.Move v') (stopped : v.stopped = true) : v'.stopped = true := by
  cases move <;> first | rfl | exact stopped

/-- An entry that is new has a new ticket. -/
theorem entries_move (move : v.Move v') {p : PendingRequest} (hp : p ∈ v'.pool.entries) :
    p ∈ v.pool.entries ∨ v.pool.nextTicket ≤ p.ticket := by
  cases move with
  | enter r resultType deadline live free perm =>
    rcases List.mem_append.mp hp with old | new
    · exact .inl old
    · rw [List.mem_singleton.mp new]
      exact .inr (Nat.le_refl _)
  | close mem settled => exact .inl (v.pool.entries_close _ _ hp)
  | leave perm => exact .inl (v.pool.entries_leave _ _ hp)
  | failAll e => exact .inl (v.pool.entries_failAll e hp)
  | _ => exact .inl hp

theorem Regular.later_move (h : v.Regular) (move : v.Move v') : v.Later v' where
  tickets := (h.calls_move move).2.2.1
  entries _ := entries_move move
  calls c hc old := by
    rcases (h.calls_move move).2.2.2 c hc with kept | ⟨new, -⟩
    · exact kept
    · omega
  stopped := stopped_move move
  closed stopped := by
    cases move with
    | enter r resultType deadline live free perm =>
      rw [stopped] at live
      cases live
    | leave perm => exact PendingPool.nextTicket_leave _ _
    | failAll e => exact PendingPool.nextTicket_failAll e
    | _ => rfl
  past past := over_move past move
  receiving running := (receiving_move move).symm.trans running
  medium := medium_move move
  codec := (codec_move move).1

theorem Regular.moves (h : v.Regular) (moves : v.Moves v') : v'.Regular ∧ v.Later v' := by
  induction moves with
  | refl => exact ⟨h, .refl v⟩
  | tail _ move ih => exact ⟨ih.1.move move, ih.2.trans (ih.1.later_move move)⟩

theorem receiving_moves (moves : v.Moves v') : v'.receiving = v.receiving := by
  induction moves with
  | refl => rfl
  | tail _ move ih => exact (receiving_move move).trans ih

/-- New tasks have new serial numbers. -/
theorem fresh_move (move : v.Move v') :
    v.next ≤ v'.next ∧ ∀ k ∈ v'.serials, k ∈ v.serials ∨ v.next ≤ k := by
  cases move with
  | spawn held =>
    refine ⟨Nat.le_succ _, fun k hk => ?_⟩
    rcases List.mem_append.mp hk with old | new
    · exact .inl old
    · exact .inr (Nat.le_of_eq (List.mem_singleton.mp new).symm)
  | tick le => exact ⟨le, fun k hk => .inl hk⟩
  | retire sub => exact ⟨Nat.le_refl _, fun k hk => .inl (sub.subset hk)⟩
  | _ => exact ⟨Nat.le_refl _, fun k hk => .inl hk⟩

theorem fresh_moves (moves : v.Moves v') :
    v.next ≤ v'.next ∧ ∀ k ∈ v'.serials, k ∈ v.serials ∨ v.next ≤ k := by
  induction moves with
  | refl => exact ⟨Nat.le_refl _, fun k hk => .inl hk⟩
  | tail _ move ih =>
    obtain ⟨le, fresh⟩ := fresh_move move
    refine ⟨Nat.le_trans ih.1 le, fun k hk => ?_⟩
    rcases fresh k hk with old | new
    · exact ih.2 k old
    · exact .inr (Nat.le_trans ih.1 new)

/-! ### The end of the loop for frames -/

theorem Regular.over_shut (h : v.Regular) : v.shut.Over :=
  ⟨rfl, h.pool.entries_failAll _⟩

theorem Regular.shut (h : v.Regular) : v.shut.Regular where
  pool := h.pool.failAll _
  apart := h.apart
  slot c hc := (h.pool.keeps_failAll _).slot (h.slot c hc)
  serials := h.serials
  below := h.below
  released gone := ⟨rfl, (h.released gone).2⟩
  wired := h.wired
  drained := h.drained
  unplugged := h.unplugged
  queued := h.queued

theorem Regular.later_shut (h : v.Regular) : v.Later v.shut where
  tickets := Nat.le_of_eq (PendingPool.nextTicket_failAll _).symm
  entries _ hp := .inl (v.pool.entries_failAll _ hp)
  calls _ hc _ := ⟨hc, h.pool.keeps_failAll _⟩
  stopped _ := rfl
  closed _ := PendingPool.nextTicket_failAll _
  past _ := h.over_shut
  receiving := nofun
  medium := rfl
  codec := rfl

/-! ### Turns -/

/-- The other side takes from the queue of the node. -/
def drain (v : Stance) (f : Mailbox → Mailbox) : Stance :=
  { v with transport := v.transport.mapBox f }

theorem drain_id (v : Stance) : v.drain id = v := by
  obtain ⟨medium, codec, pool, stopped, transport⟩ := v
  cases transport <;> rfl

theorem drain_drain (v : Stance) (f g : Mailbox → Mailbox) : (v.drain f).drain g = v.drain (g ∘ f) := by
  obtain ⟨medium, codec, pool, stopped, transport⟩ := v
  cases transport <;> rfl

theorem Regular.drain (h : v.Regular) {f : Mailbox → Mailbox}
    (keeps : ∀ box, (f box).senderGone = box.senderGone) : (v.drain f).Regular where
  pool := h.pool
  apart := h.apart
  slot := h.slot
  serials := h.serials
  below := h.below
  released gone := ⟨(h.released gone).1, (Transport.isOver_mapBox keeps _).trans (h.released gone).2⟩
  wired := h.wired
  drained := h.drained
  unplugged := h.unplugged
  queued joined := (Transport.codec?_mapBox _ f).trans (h.queued joined)

theorem later_drain (v : Stance) (f : Mailbox → Mailbox) : v.Later (v.drain f) :=
  ⟨⟨Nat.le_refl _, fun _ => .inl, fun _ hc _ => ⟨hc, id, fun _ => id⟩, id⟩, fun _ => rfl, id, id, rfl,
    rfl⟩

/-- What an incident can do to a node. Frames are taken from its queue if the loop for frames of the
other side goes on, and its own loop for frames ends if that one goes on. -/
inductive Turn (other own : Prop) (v : Stance) : Stance → Prop
  | moves {v' : Stance} {f : Mailbox → Mailbox}
      (keeps : ∀ box, (f box).senderGone = box.senderGone) (taken : other ∨ f = id)
      (moves : (v.drain f).Moves v') : Turn other own v v'
  | shut {f : Mailbox → Mailbox} (keeps : ∀ box, (f box).senderGone = box.senderGone)
      (taken : other ∨ f = id) (ended : own) : Turn other own v (v.drain f).shut

variable {other own : Prop}

theorem Turn.of_moves (moves : v.Moves v') : v.Turn other own v' :=
  .moves (f := id) (fun _ => rfl) (.inr rfl) (v.drain_id.symm ▸ moves)

theorem taken_comp {f g : Mailbox → Mailbox} (taken : other ∨ f = id) (taken' : other ∨ g = id) :
    other ∨ g ∘ f = id := by
  rcases taken with taken | rfl
  · exact .inl taken
  · exact taken'

theorem Turn.of_drain {f : Mailbox → Mailbox} (keeps : ∀ box, (f box).senderGone = box.senderGone)
    (taken : other ∨ f = id) (turn : (v.drain f).Turn other own v') : v.Turn other own v' := by
  cases turn with
  | @moves _ g keeps' taken' moves =>
    rw [drain_drain] at moves
    exact .moves (fun box => (keeps' _).trans (keeps box)) (taken_comp taken taken') moves
  | @shut g keeps' taken' ended =>
    rw [drain_drain]
    exact .shut (fun box => (keeps' _).trans (keeps box)) (taken_comp taken taken') ended

theorem Regular.turn (h : v.Regular) (turn : v.Turn other own v') : v'.Regular ∧ v.Later v' := by
  cases turn with
  | moves keeps taken moves =>
    obtain ⟨h', later⟩ := (h.drain keeps).moves moves
    exact ⟨h', (v.later_drain _).trans later⟩
  | shut keeps taken ended =>
    have drained := h.drain keeps
    exact ⟨drained.shut, (v.later_drain _).trans drained.later_shut⟩

theorem Holds.turn (h : v.Holds) (turn : v.Turn other own v') : v'.Holds ∧ v.Later v' := by
  obtain ⟨regular, later⟩ := h.toRegular.turn turn
  refine ⟨⟨regular, fun joined ended => ?_⟩, later⟩
  cases turn with
  | moves keeps taken moves =>
    rw [receiving_moves moves] at ended
    exact later.past (h.ended (later.medium ▸ joined) ended)
  | shut keeps taken own => exact (h.drain keeps).over_shut

/-- Where the loop for frames ended, the endpoint is stopped, and all requests that waited were
interrupted. -/
theorem Turn.interrupted (turn : v.Turn other own v') (running : v.receiving = true)
    (ended : v'.receiving = false) :
    v'.stopped = true ∧ v'.calls = v.calls ∧ v'.pool = v.pool.failAll .interrupted := by
  cases turn with
  | moves keeps taken moves =>
    rw [receiving_moves moves, show (v.drain _).receiving = v.receiving from rfl, running] at ended
    cases ended
  | shut keeps taken own => exact ⟨rfl, rfl, rfl⟩

theorem Turn.fresh (turn : v.Turn other own v') :
    v.next ≤ v'.next ∧ ∀ k ∈ v'.serials, k ∈ v.serials ∨ v.next ≤ k := by
  cases turn with
  | @moves _ f keeps taken moves => exact fresh_moves (v := v.drain f) moves
  | shut keeps taken ended => exact ⟨Nat.le_refl _, fun k hk => .inl hk⟩

/-! ### Outcomes that are there -/

theorem Regular.outcome?_isSome (h : v.Regular) (past : v.Over) {c : Nat × Id} (hc : c ∈ v.calls) :
    (v.pool.outcome? c.1).isSome = true :=
  h.pool.outcome?_isSome (by simp [past.2]) (h.slot c hc)

/-- Once everything is over no call is new, and an outcome stays until it is taken. -/
theorem Later.outcome?_eq (later : v.Later v') (h : v.Regular) (h' : v'.Regular) (past : v.Over)
    {c : Nat × Id} (hc : c ∈ v'.calls) :
    c ∈ v.calls ∧ v'.pool.outcome? c.1 = v.pool.outcome? c.1 := by
  have old := h'.pool.lt_of_hasSlot (h'.slot c hc)
  rw [later.closed past.1] at old
  obtain ⟨there, keeps⟩ := later.calls c hc old
  obtain ⟨o, outcome⟩ := Option.isSome_iff_exists.mp (h.outcome?_isSome past there)
  exact ⟨there, (keeps.outcome o outcome).trans outcome.symm⟩

end Stance

end DuplexRpc

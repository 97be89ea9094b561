import DuplexRpc.Proofs.Network.Reaction
import DuplexRpc.Proofs.Resolver

/-! Calls of declared methods. What a handler that the other side exports makes of the arguments is
what the caller gets, whatever else goes on, as long as the method has a name and the caller asked
about it with one service: a request for the empty name is refused, and a method that was asked about
with another service first keeps the name that it has there. -/

namespace DuplexRpc

/-- A call of a declared method, its mapping, and how the handler of the method reacts. -/
structure RemoteCall where
  client : Client := {}
  service : ServiceDescriptor
  method : MethodDescriptor
  args : List Value
  mapping : MethodMapping
  react : List Value → Reaction

namespace RemoteCall

variable (call : RemoteCall)

/-- What the caller asks its endpoint for. -/
def launch : Launch :=
  .mapped call.client call.service call.method (.ok call.args)

/-- How the handler reacts to the call. -/
def reaction : Reaction :=
  call.react call.args

/-- What the other side exports. -/
def handler (_ : Context) (args : List Value) : Script :=
  (call.react args).script

/-- What the caller and the handler have to keep to. -/
structure Valid : Prop where
  accepted : MethodMapping.resolve call.service call.method = .ok call.mapping
  kind : call.mapping.kind = .request
  distinct : call.mapping.packing = .named → call.mapping.params.Nodup
  lasting : call.mapping.timeout.or call.client.timeout = none
  length : call.args.length = call.mapping.params.length
  ordered : ∀ v ∈ call.args, v.IsOrdered
  plain : call.reaction.IsPlain

/-- A call whose method has a name. -/
structure Proper : Prop extends call.Valid where
  named : call.mapping.name.isEmpty = false

variable {call}

/-- A caller that asked about the method with no other service finds the mapping of the call. -/
theorem Proper.resolved (proper : call.Proper) {e : Endpoint} {queries : List MappingResolver.Query}
    (resolver : e.registry.resolver = (MappingResolver.resolveAll {} queries).2)
    (asked : MappingResolver.AskedUnder queries call.service call.method) :
    (e.resolve call.service call.method).1 = .ok call.mapping := by
  show (e.registry.resolver.resolve call.service call.method).1 = .ok call.mapping
  rw [resolver, asked.resolve, proper.accepted]

end RemoteCall

namespace Course

/-- The id that a side gives to its next request. -/
def nextId (c : Course) (side : Side) : Id :=
  (c.net.endpoint side).ids.take.1

/-- The ticket of the next request that a side makes. -/
def nextTicket (c : Course) (side : Side) : Nat :=
  (c.net.endpoint side).pool.nextTicket

/-- By the act a caller or a task of the side makes the call. -/
structure Makes (c : Course) (side : Side) (act : Network.Act) (what : Launch) : Prop where
  place : act.side? = some side
  deed : c.net.deed side act = .launch what

/-! ### The call -/

theorem requests_run (c : Course) (acts : List Network.Act) (side : Side) :
    ∃ more, ((c.run acts).trace side).requests = (c.trace side).requests ++ more := by
  induction acts generalizing c with
  | nil => exact ⟨[], (List.append_nil _).symm⟩
  | cons act acts ih =>
    obtain ⟨later, same⟩ := ih (c.step act)
    have first : ∃ new, ((c.step act).trace side).requests = (c.trace side).requests ++ new := by
      simp only [step]
      split
      · exact ⟨_, Trace.requests_append _ _⟩
      · exact ⟨[], (List.append_nil _).symm⟩
    obtain ⟨new, added⟩ := first
    refine ⟨new ++ later, ?_⟩
    rw [← List.append_assoc, ← added]
    exact same

namespace Exchanges

variable {codec : Codec} {sources : Side → IdSource} {handlers : Side → List (String × Handler)}
  {c : Course} {side : Side} {act : Network.Act} {call : RemoteCall}

/-- The entry of a call that is made under the next id. -/
def entry (c : Course) (side : Side) (call : RemoteCall) (params : Option Value) : PendingRequest where
  request := { id := c.nextId side, method := call.mapping.name, params }
  resultType := call.mapping.resultType
  deadline := none
  ticket := c.nextTicket side

theorem launch_eq (h : Exchanges codec sources handlers c) (proper : call.Proper)
    (resolved : ((c.net.endpoint side).resolve call.service call.method).1 = .ok call.mapping)
    (free : (c.net.endpoint side).pool.find? (c.nextId side) = none)
    {params : Option Value} (packed : call.mapping.pack call.args = .ok params) {t : Transport}
    (opened : t.IsOpen) :
    ((c.net.endpoint side).via t).launch c.net.clock call.launch =
      (.waiting (c.nextId side) (c.nextTicket side),
        (((c.net.endpoint side).resolve call.service call.method).2.entered c.net.clock
          call.mapping.name params none call.mapping.resultType).via
            (t.pushAll [.request (entry c side call params).request])) := by
  have launched : ((c.net.endpoint side).via t).launch c.net.clock call.launch = _ :=
    Endpoint.launch_mapped_via (h.live.node side).stopped free resolved proper.kind packed
      c.net.clock opened
  rw [proper.lasting] at launched
  exact launched

/-- A call that is made is posted and held. -/
theorem held_of_makes (h : Exchanges codec sources handlers c) (proper : call.Proper)
    (makes : c.Makes side act call.launch)
    (resolved : ((c.net.endpoint side).resolve call.service call.method).1 = .ok call.mapping)
    (free : (c.net.endpoint side).pool.find? (c.nextId side) = none)
    {params : Option Value} (packed : call.mapping.pack call.args = .ok params)
    (sole : (((c.step act).trace side).requests.filter
      (·.id.same (c.nextId side))).length ≤ 1) :
    Held (entry c side call params) ((c.step act).net.endpoint side)
      ((c.step act).trace side) := by
  have launched := fun t opened => h.launch_eq (t := t) proper resolved free packed opened
  have posts : (Deed.launch call.launch).posts c.net.clock (c.net.endpoint side) =
      [.request (entry c side call params).request] := by
    have opened : (Transport.recorder [] none).IsOpen := rfl
    rw [Deed.posts, Deed.run, launched _ opened, Endpoint.via_transport, Transport.pushAll_recorder]
    rfl
  have goes := h.live.goes h.numbered act
  rw [makes.place, Option.getD_some, makes.deed] at goes
  obtain ⟨popped, tasks, serial, turn, change⟩ := goes
  have pool : ((c.step act).net.endpoint side).pool = (c.net.endpoint side).pool.enter
      (entry c side call params).request call.mapping.resultType none := by
    have here : ((c.step act).net.endpoint side) =
        (Deed.launch call.launch).run c.net.clock (c.net.endpoint side) := by
      rw [Network.endpoint, Course.step, change.here]
    have ran := launched _ (h.live.isOpen side)
    rw [here, Deed.run]
    exact congrArg (fun x => x.2.pool) ran
  have trace : (c.step act).trace side =
      (c.trace side).append (c.net.observe side act) := by
    simp only [Course.step, makes.place, if_true]
  have requests : ((c.step act).trace side).requests =
      (c.trace side).requests ++ [(entry c side call params).request] := by
    rw [trace, Trace.requests_append]
    simp only [Network.observe, Network.seen, makes.deed, posts, Trace.requests]
    rfl
  have answers : ((c.step act).trace side).answers = (c.trace side).answers := by
    rw [trace, Trace.answers_append]
    simp only [Network.observe, Network.seen, makes.deed, Trace.answers]
    exact List.append_nil _
  refine .waits ?_ ?_ ?_
  · rw [pool]
    exact List.mem_append_right _ List.mem_cons_self
  · rw [pool]
    have fresh := (h.asking side).sound.fresh _ (Nat.le_refl _)
    simp only [PendingPool.enter, entry, nextTicket, Slots.find?_append_single, fresh,
      Option.none_or, if_true]
  · -- a response of before has the id of a request of before
    intro r hr
    rw [answers] at hr
    obtain ⟨q, hq, sameId, -⟩ := h.settled hr
    by_cases same : (entry c side call params).id.same r.id = true
    · have earlier : q.id.same (c.nextId side) = true := by
        rw [sameId, Id.same_comm]
        exact same
      have mem : q ∈ (c.trace side).requests.filter
          (·.id.same (c.nextId side)) := List.mem_filter.mpr ⟨hq, earlier⟩
      have old := List.length_pos_of_mem mem
      have own : [(entry c side call params).request].filter
          (·.id.same (c.nextId side)) = [(entry c side call params).request] := by
        simp [entry, Id.same_refl]
      rw [requests, List.filter_append, own, List.length_append, List.length_singleton] at sole
      omega
    · simpa using same

end Exchanges

theorem answerable_of_held {handlers : List (String × Handler)} {c : Course} {side : Side}
    {call : RemoteCall} (proper : call.Proper) {params : Option Value}
    (packed : call.mapping.pack call.args = .ok params)
    (unpacked : call.mapping.unpack params = .ok call.args) {id : Id} {p : PendingRequest}
    (request : p.request = { id, method := call.mapping.name, params })
    (held : Held p (c.net.endpoint side) (c.trace side))
    (sole : ((c.trace side).requests.filter (·.id.same p.id)).length ≤ 1)
    (found : Fields.get? call.mapping.name handlers =
      some (.ofMapping call.mapping call.handler)) :
    Answerable handlers c side p (.ofMapping call.mapping call.handler)
      call.reaction where
  held := held
  sole := sole
  carried := by
    rw [request]
    exact Request.carried_of_isOrdered (Packing.isOrdered_of_pack packed proper.ordered)
  named := by
    rw [request]
    exact proper.named
  found := by
    rw [request]
    exact found
  script := by
    rw [request, Handler.ofMapping, unpacked]
    rfl
  plain := proper.plain

/-- However the calls, the handlers and the deliveries of both sides follow each other: a call of a
declared method that the other side exports runs the handler once, on the arguments of the call, and
the caller gets what the handler makes of them. The caller's resolver may have been asked about
anything before, but about the method of the call with no other service, since it keeps one mapping
for a method, whatever the service. -/
theorem call_transparent {a b : Setup} {net : Network}
    (connected : Network.connect a b = .ok net) {c : Course} {before : List Network.Act}
    (reached : c = (Course.mk net fun _ => {}).run before) {side : Side} {call : RemoteCall}
    (proper : call.Proper)
    (exported : (net.endpoint side.other).registry.Exports call.mapping call.handler)
    {queries : List MappingResolver.Query}
    (resolver : (c.net.endpoint side).registry.resolver = (MappingResolver.resolveAll {} queries).2)
    (asked : MappingResolver.AskedUnder queries call.service call.method)
    (free : (c.net.endpoint side).pool.find? (c.nextId side) = none) {act : Network.Act}
    (makes : c.Makes side act call.launch) (after : List Network.Act)
    (fits : ((c.step act).run after).Fits a.config.codec)
    (sole : ((((c.step act).run after).trace side).requests.filter
      (·.id.same (c.nextId side))).length ≤ 1)
    (kept : ¬ (((c.step act).run after).trace side).GivesUp (c.nextTicket side) (c.nextId side)) :
    ((c.net.endpoint side).launch c.net.clock call.launch).1 =
        .waiting (c.nextId side) (c.nextTicket side) ∧
      ((c.step act).run after).Transparent side (c.nextId side) (c.nextTicket side)
        call.reaction := by
  have resolved := proper.resolved resolver asked
  have fits_step : (c.step act).Fits a.config.codec := fits.of_run
  have begun : Exchanges a.config.codec (fun side => (net.endpoint side).ids)
      (fun side => (net.endpoint side).registry.requests) c := by
    rw [reached]
    exact (exchanges_of_connect connected).run before (reached ▸ fits_step.of_step)
  have made := begun.step fits_step.of_step act
  have ended := made.run after fits
  obtain ⟨params, packed, unpacked⟩ :=
    MethodMapping.unpack_pack proper.accepted proper.distinct proper.length
  have sole_step : (((c.step act).trace side).requests.filter
      (·.id.same (c.nextId side))).length ≤ 1 := by
    obtain ⟨more, grown⟩ := requests_run (c.step act) after side
    rw [grown, List.filter_append, List.length_append] at sole
    omega
  have held := begun.held_of_makes proper makes resolved free packed sole_step
  have lasting := made.held_run held rfl after fits kept
  constructor
  · have launched := begun.launch_eq proper resolved free packed (begun.live.isOpen side)
    exact congrArg Prod.fst launched
  · exact ended.transparent (answerable_of_held proper packed unpacked rfl lasting sole
      (exported.requestHandler? proper.kind))

/-- The setups of two endpoints. The first has asked its resolver about methods, and the second
exports the method of a call. -/
def exporting (call : RemoteCall) (queries : List MappingResolver.Query) : Side → Setup
  | .a =>
    { config := { codec := .messagePack }
      registry := { resolver := (MappingResolver.resolveAll {} queries).2 } }
  | .b =>
    { config := { codec := .messagePack }
      registry := (({} : Registry).exportMethod call.mapping call.handler).2.1 }

def linked (call : RemoteCall) (queries : List MappingResolver.Query) : Network where
  a := (exporting call queries .a).queueNode
  b := some (exporting call queries .b).queueNode
  link := .queues

/-- A task is to make the call, and the other side asks for something else under the same id. -/
def pairing (call : RemoteCall) (queries : List MappingResolver.Query) : Course :=
  (Course.mk (linked call queries) fun _ => {}).run
    [.run .a (.request call.launch .done), .launch .b (.plain "absent" none none "Value")]

/-- The task makes the call, and both sides go on until nothing can. -/
def concluded (call : RemoteCall) (queries : List MappingResolver.Query) : Course :=
  ((pairing call queries).step (.go (.task .a 0))).run
    [.go (.receiving .a true), .go (.receiving .b true), .go (.task .b 1), .go (.receiving .a true),
      .go (.receiving .b true), .go (.task .a 0), .go (.task .a 0)]

/-- A call by names, whose handler sends the arguments back in an error. -/
def put : RemoteCall where
  service := { name := "Store", basePath := some "store" }
  method :=
    { place := 0, ident := "put", packing := some .named, params := ["value", "key"]
      resultType := "Value" }
  args := [.null, .str "k"]
  mapping :=
    { name := "store/put", kind := .request, packing := .named, params := ["value", "key"]
      resultType := "Value", returnsFuture := false, timeout := .inherit }
  react args := .error { kind := .other 7, message := "locked", data := some (.arr args) }

/-- A service with the same method under another path. -/
def cache : ServiceDescriptor := { name := "Cache", basePath := some "cache" }

theorem valid_put : put.Valid := by
  refine ⟨rfl, rfl, by decide, rfl, rfl, ?_, by decide, ?_⟩
  · simp [put, Value.IsOrdered]
  · intro v hv
    obtain rfl := Option.some.inj hv
    exact ⟨rfl, by simp [put, Value.IsOrdered, Value.AreOrdered]⟩

theorem call_transparent_put :
    let queries := [⟨cache, { put.method with place := 1 }⟩, ⟨put.service, put.method⟩]
    put.Proper ∧ ((linked put queries).endpoint .b).registry.Exports put.mapping put.handler ∧
      (pairing put queries).Makes .a (.go (.task .a 0)) put.launch ∧
      (concluded put queries).Fits .messagePack ∧ (concluded put queries).net.able = [] ∧
      (concluded put queries).Transparent .a (.ofInt64 0) 0 put.reaction := by
  intro queries
  have proper : put.Proper := ⟨valid_put, rfl⟩
  have exported : ((linked put queries).endpoint (Side.other .a)).registry.Exports put.mapping
      put.handler :=
    .method {} rfl
  have asked : MappingResolver.AskedUnder queries put.service put.method := by
    intro q mem same
    rcases List.mem_cons.mp mem with rfl | mem
    · cases same
    · exact List.mem_singleton.mp mem
  have makes : (pairing put queries).Makes .a (.go (.task .a 0)) put.launch := ⟨rfl, rfl⟩
  have connected : Network.connect (exporting put queries .a) (exporting put queries .b) =
      .ok (linked put queries) := rfl
  have fits : (concluded put queries).Fits .messagePack := by decide +kernel
  have transparent := call_transparent connected rfl proper exported rfl asked rfl makes _ fits
    (by decide +kernel) (by decide +kernel)
  exact ⟨proper, exported, makes, fits, by decide +kernel, transparent.2⟩

/-- A call of a method with the empty name. -/
def unnamed : RemoteCall where
  service := { name := "Store" }
  method :=
    { place := 0, ident := "put", name := some "", packing := some .single, params := ["value"]
      resultType := "Value" }
  args := [.str "v"]
  mapping :=
    { name := "", kind := .request, packing := .single, params := ["value"]
      resultType := "Value", returnsFuture := false, timeout := .inherit }
  react args := .value (.arr args)

theorem valid_unnamed : unnamed.Valid := by
  refine ⟨rfl, rfl, by decide, rfl, rfl, ?_, ?_⟩
  · simp [unnamed, Value.IsOrdered]
  · simp [RemoteCall.reaction, unnamed, Reaction.IsPlain, Value.IsOrdered, Value.AreOrdered]

/-- A call of a method that the other side exports is refused with an error, and its handler does not
run. -/
structure Misses (call : RemoteCall) (queries : List MappingResolver.Query) (e : RpcError) : Prop where
  valid : call.Valid
  exported : ((linked call queries).endpoint .b).registry.Exports call.mapping call.handler
  makes : (pairing call queries).Makes .a (.go (.task .a 0)) call.launch
  idle : (concluded call queries).net.able = []
  refused : ((concluded call queries).trace .a).taken = [(0, .error e)]
  missed : ¬ (concluded call queries).Transparent .a (.ofInt64 0) 0 call.reaction

/-- A method that is exported is missed where its name is empty, and where the caller asked about it
with another service first. -/
theorem exported_calls_missed :
    Misses unnamed [] { kind := .invalidRequest, message := "empty method name" } ∧
      Misses put [⟨cache, put.method⟩]
        { kind := .methodNotFound, message := "method not found: cache/put" } := by
  have unnamed_idle : (concluded unnamed []).net.able = [] := by decide +kernel
  have put_idle : (concluded put [⟨cache, put.method⟩]).net.able = [] := by decide +kernel
  refine ⟨⟨valid_unnamed, .method {} rfl, ⟨rfl, rfl⟩, unnamed_idle, rfl, fun transparent => ?_⟩,
    ⟨valid_put, .method {} rfl, ⟨rfl, rfl⟩, put_idle, rfl, fun transparent => ?_⟩⟩
  · have once := (transparent.ran unnamed_idle).1
    revert once
    decide +kernel
  · have once := (transparent.ran put_idle).1
    revert once
    decide +kernel

end Course

end DuplexRpc

import DuplexRpc.Error.Chain

/-! What a chain of errors stands for: the error that the first recognised one of its links tells of,
or else an internal error with the text of the chain. Links that are not recognised change nothing but
that text. -/

namespace DuplexRpc.ErrorChain

variable {chain padded link : ErrorChain} {links : List ErrorChain} {e : RpcError}

/-! ### The links of a chain -/

/-- The error that an input or output error wraps. -/
def inner? : ErrorChain → Option ErrorChain
  | .ioAround _ inner => some inner
  | _ => none

/-- The source of an error. An input or output error leaves out the error that it wraps and gives the
source of that one. -/
def source? : ErrorChain → Option ErrorChain
  | .ioAround _ inner => inner.source?
  | .wrapped _ source => some source
  | _ => none

/-- The next link inwards: what an input or output error wraps, the source of any other error. -/
def next? (link : ErrorChain) : Option ErrorChain :=
  link.inner?.or link.source?

/-- The links of a chain, from the outermost inwards. -/
inductive Links : ErrorChain → List ErrorChain → Prop
  | last {link : ErrorChain} (ends : link.next? = none) : Links link [link]
  | step {link next : ErrorChain} {links : List ErrorChain} (goes : link.next? = some next)
      (rest : Links next links) : Links link (link :: links)

theorem exists_links (chain : ErrorChain) : ∃ links, Links chain links := by
  induction chain with
  | ioAround kind inner ih =>
    obtain ⟨links, rest⟩ := ih
    exact ⟨_, .step rfl rest⟩
  | wrapped text source ih =>
    obtain ⟨links, rest⟩ := ih
    exact ⟨_, .step rfl rest⟩
  | typed _ | cancelled | panicked _ | elapsed | closed | io _ _ | plain _ => exact ⟨_, .last rfl⟩

theorem Links.unique {others : List ErrorChain} (h : Links chain links) (h' : Links chain others) :
    others = links := by
  induction h generalizing others with
  | last ends =>
    cases h' with
    | last => rfl
    | step goes =>
      rw [ends] at goes
      cases goes
  | step goes _ ih =>
    cases h' with
    | last ends =>
      rw [goes] at ends
      cases ends
    | step goes' rest =>
      obtain rfl := Option.some.inj (goes.symm.trans goes')
      rw [ih rest]

/-! ### What links tell -/

/-- The kind of an input or output error. -/
def ioKind? : ErrorChain → Option IoKind
  | .io kind _ => some kind
  | .ioAround kind _ => some kind
  | _ => none

/-- The error that a link tells of by itself, whatever it wraps. -/
inductive Tells : ErrorChain → RpcError → Prop
  | typed (e : RpcError) : Tells (.typed e) e
  | cancelled : Tells .cancelled .interrupted
  | panicked (payload : PanicPayload) :
      Tells (.panicked payload) (.internal (message (.panicked payload)))
  | elapsed : Tells .elapsed .timeout
  | closed : Tells .closed .interrupted
  | timedOut {link : ErrorChain} (kind : link.ioKind? = some .timedOut) : Tells link .timeout
  | interrupted {link : ErrorChain} (kind : link.ioKind? = some .interrupted) :
      Tells link .interrupted

/-- The link is not recognised. -/
def IsSilent (link : ErrorChain) : Prop :=
  ∀ e, ¬ Tells link e

theorem Tells.recognised (tells : Tells link e) : link.recognised? = some e := by
  cases tells with
  | typed | cancelled | panicked | elapsed | closed => rfl
  | timedOut kind | interrupted kind =>
    cases link <;> cases kind <;> rfl

theorem isSilent_wrapped (text : String) (source : ErrorChain) :
    (wrapped text source).IsSilent := by
  intro e tells
  cases tells with
  | timedOut kind | interrupted kind => cases kind

/-- Of an input or output error the kind decides. -/
theorem isSilent_iff_of_ioKind {kind : IoKind} (there : link.ioKind? = some kind) :
    link.IsSilent ↔ ofIoKind? kind = none := by
  constructor
  · intro silent
    cases kind with
    | timedOut => exact absurd (.timedOut there) (silent _)
    | interrupted => exact absurd (.interrupted there) (silent _)
    | notFound | brokenPipe | connectionReset | other | unlisted => rfl
  · intro plain e tells
    cases tells with
    | typed | cancelled | panicked | elapsed | closed => cases there
    | timedOut known | interrupted known =>
      obtain rfl := Option.some.inj (there.symm.trans known)
      cases plain

/-- A link that is not recognised leaves it to the next one. -/
theorem IsSilent.recognised (silent : link.IsSilent) :
    link.recognised? = link.next?.bind recognised? := by
  cases link with
  | typed e => exact absurd (.typed e) (silent _)
  | cancelled => exact absurd .cancelled (silent _)
  | panicked payload => exact absurd (.panicked payload) (silent _)
  | elapsed => exact absurd .elapsed (silent _)
  | closed => exact absurd .closed (silent _)
  | io kind text => exact (isSilent_iff_of_ioKind rfl).mp silent
  | ioAround kind inner =>
    rw [recognised?, (isSilent_iff_of_ioKind rfl).mp silent]
    rfl
  | wrapped | plain => rfl

/-! ### The first link that is recognised -/

/-- What a chain stands for. -/
inductive StandsFor (chain : ErrorChain) : RpcError → Prop
  /-- The first of its links that is recognised tells. -/
  | first {before after : List ErrorChain} {link : ErrorChain} {e : RpcError}
      (links : Links chain (before ++ link :: after)) (silent : ∀ l ∈ before, l.IsSilent)
      (tells : Tells link e) : StandsFor chain e
  /-- None of its links is recognised, so its text is all there is: that of the outermost one. -/
  | none {links : List ErrorChain} (all : Links chain links) (silent : ∀ l ∈ links, l.IsSilent) :
      StandsFor chain (.internal chain.message)

theorem recognised?_of_first {before after : List ErrorChain}
    (walk : Links chain (before ++ link :: after)) (silent : ∀ l ∈ before, l.IsSilent)
    (tells : Tells link e) : chain.recognised? = some e := by
  induction before generalizing chain with
  | nil => cases walk <;> exact tells.recognised
  | cons l before ih =>
    obtain ⟨here, silent⟩ := List.forall_mem_cons.mp silent
    rw [List.cons_append] at walk
    generalize rest : before ++ link :: after = links at walk
    cases walk with
    | last => exact absurd rest (List.append_ne_nil_of_right_ne_nil _ (List.cons_ne_nil _ _))
    | step goes walk =>
      rw [here.recognised, goes]
      exact ih (rest ▸ walk) silent

theorem recognised?_of_silent (walk : Links chain links) (silent : ∀ l ∈ links, l.IsSilent) :
    chain.recognised? = none := by
  induction walk with
  | last ends =>
    rw [(silent _ List.mem_cons_self).recognised, ends]
    rfl
  | step goes _ ih =>
    obtain ⟨here, silent⟩ := List.forall_mem_cons.mp silent
    rw [here.recognised, goes]
    exact ih silent

theorem silent_or_first (links : List ErrorChain) : (∀ l ∈ links, l.IsSilent) ∨
    ∃ before link after e, links = before ++ link :: after ∧ (∀ l ∈ before, l.IsSilent) ∧
      Tells link e := by
  induction links with
  | nil => exact .inl nofun
  | cons l links ih =>
    by_cases here : l.IsSilent
    · rcases ih with silent | ⟨before, link, after, e, rfl, silent, tells⟩
      · exact .inl (List.forall_mem_cons.mpr ⟨here, silent⟩)
      · have silent := List.forall_mem_cons.mpr ⟨here, silent⟩
        exact .inr ⟨l :: before, link, after, e, rfl, silent, tells⟩
    · obtain ⟨e, tells⟩ := Classical.not_forall_not.mp here
      exact .inr ⟨[], l, links, e, rfl, nofun, tells⟩

theorem StandsFor.resolve (h : StandsFor chain e) : chain.resolve = e := by
  cases h with
  | first walk silent tells =>
    rw [ErrorChain.resolve, recognised?_of_first walk silent tells]
    rfl
  | none walk silent =>
    rw [ErrorChain.resolve, recognised?_of_silent walk silent]
    rfl

theorem standsFor_resolve (chain : ErrorChain) : StandsFor chain chain.resolve := by
  obtain ⟨links, walk⟩ := exists_links chain
  rcases silent_or_first links with silent | ⟨before, link, after, e, rfl, silent, tells⟩
  · have stands := StandsFor.none walk silent
    rwa [stands.resolve]
  · have stands := StandsFor.first walk silent tells
    rwa [stands.resolve]

/-! ### Links that are not recognised -/

/-- A link around another one. -/
inductive Layer where
  | io (kind : IoKind)
  | wrapper (text : String)

def Layer.around : Layer → ErrorChain → ErrorChain
  | .io kind, inner => .ioAround kind inner
  | .wrapper text, source => .wrapped text source

theorem Layer.next?_around (layer : Layer) (chain : ErrorChain) :
    (layer.around chain).next? = some chain := by
  cases layer <;> rfl

/-- What decides is the layer, or else what it is around. -/
theorem Layer.recognised?_around (layer : Layer)
    (same : padded.recognised? = chain.recognised?) :
    (layer.around padded).recognised? = (layer.around chain).recognised? := by
  cases layer with
  | io kind => rw [around, around, recognised?, recognised?, same]
  | wrapper text => exact same

/-- The second chain has the links of the first one and further ones, anywhere before them or between
them, that are not recognised. -/
inductive Padded : ErrorChain → ErrorChain → Prop
  | same (chain : ErrorChain) : Padded chain chain
  | keep {chain padded : ErrorChain} (layer : Layer) (rest : Padded chain padded) :
      Padded (layer.around chain) (layer.around padded)
  | insert {chain padded : ErrorChain} (layer : Layer) (silent : (layer.around padded).IsSilent)
      (rest : Padded chain padded) : Padded chain (layer.around padded)

theorem Padded.recognised (h : Padded chain padded) : padded.recognised? = chain.recognised? := by
  induction h with
  | same => rfl
  | keep layer _ ih => exact layer.recognised?_around ih
  | insert layer silent _ ih =>
    rw [silent.recognised, layer.next?_around]
    exact ih

/-- A chain has finitely many links, and stands for what the first recognised one of them tells, or
for its own text where there is none. Further links that are not recognised change nothing but that
text. -/
theorem resolve_decided (chain : ErrorChain) :
    (∃ links, Links chain links ∧ ∀ others, Links chain others → others = links) ∧
      (∀ e, chain.resolve = e ↔ StandsFor chain e) ∧
      ∀ padded, Padded chain padded → padded.resolve = chain.resolve ∨
        (∀ links, Links chain links → ∀ l ∈ links, l.IsSilent) ∧
          padded.resolve = .internal padded.message := by
  obtain ⟨links, walk⟩ := exists_links chain
  refine ⟨⟨links, walk, fun _ => walk.unique⟩, fun e => ⟨?_, StandsFor.resolve⟩, ?_⟩
  · rintro rfl
    exact standsFor_resolve chain
  · intro padded more
    rcases silent_or_first links with silent | ⟨before, link, after, e, rfl, silent, tells⟩
    · right
      refine ⟨fun others walk' => walk.unique walk' ▸ silent, ?_⟩
      rw [resolve, more.recognised, recognised?_of_silent walk silent]
      rfl
    · left
      rw [resolve, resolve, more.recognised, recognised?_of_first walk silent tells]
      rfl

/-- An error that came out of a broken pipe. -/
def refused : ErrorChain :=
  .ioAround .brokenPipe (.typed (.methodNotFound "add"))

/-- It stays the same within an input or output error of another kind and a text. -/
theorem resolve_decided_refused :
    Padded refused (.wrapped "call failed" (.ioAround .other refused)) ∧
      (wrapped "call failed" (.ioAround .other refused)).resolve = .methodNotFound "add" := by
  have broken : refused.IsSilent := (isSilent_iff_of_ioKind rfl).mpr rfl
  have other : (ioAround .other refused).IsSilent := (isSilent_iff_of_ioKind rfl).mpr rfl
  have walk : Links refused ([refused] ++ [.typed (.methodNotFound "add")]) := .step rfl (.last rfl)
  have stands : StandsFor refused (.methodNotFound "add") :=
    .first walk (List.forall_mem_singleton.mpr broken) (.typed _)
  have padded : Padded refused (.wrapped "call failed" (.ioAround .other refused)) :=
    .insert (.wrapper _) (isSilent_wrapped _ _) (.insert (.io .other) other (.same refused))
  refine ⟨padded, ?_⟩
  rcases (resolve_decided refused).2.2 _ padded with same | ⟨silent, -⟩
  · rw [same]
    exact ((resolve_decided refused).2.1 _).mpr stands
  · exact absurd (.typed _) (silent _ walk _ (List.mem_append_right _ List.mem_cons_self) _)

end DuplexRpc.ErrorChain

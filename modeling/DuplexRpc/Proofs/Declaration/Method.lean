import DuplexRpc.Declaration.Method
import DuplexRpc.Proofs.Except

/-! The methods that are read off the items of a trait. The inputs of a method are the service, the
context and the arguments, in this order. What it returns and whether it is a notification decide how
it is called. -/

namespace DuplexRpc.Declaration

variable {item : TraitItem} {method : Method} {inputs : List Input} {args : List Argument}
  {output context result : TypeExpr} {isAsync isNotification : Bool} {shape : Shape}

/-! ### Inputs -/

/-- The argument that an input declares: one with a name, or one that is left without. -/
inductive Input.Declares : Input → Argument → Prop
  | named (name : String) (type : TypeExpr) : Declares (.typed (.name name) type) ⟨name, type⟩
  | unnamed (type : TypeExpr) : Declares (.typed .wild type) ⟨"", type⟩

/-- The inputs of a method: the service by reference, a context, and one input for each argument. -/
inductive Declared : List Input → TypeExpr → List Argument → Prop
  | intro (pattern : Pattern) (context : TypeExpr) {inputs : List Input} {args : List Argument}
      (each : List.Forall₂ Input.Declares inputs args) :
      Declared (.receiver true false :: .typed pattern context :: inputs) context args

theorem argumentOf_eq_ok_iff {input : Input} {a : Argument} :
    argumentOf input = .ok a ↔ input.Declares a := by
  constructor
  · intro h
    match input, h with
    | .typed (.name name) type, h =>
      obtain rfl := Except.ok.inj h
      exact .named name type
    | .typed .wild type, h =>
      obtain rfl := Except.ok.inj h
      exact .unnamed type
  · intro h
    cases h <;> rfl

theorem splitInputs_eq_ok_iff :
    splitInputs inputs = .ok (context, args) ↔ Declared inputs context args := by
  constructor
  · intro h
    match inputs, h with
    | .receiver true false :: .typed pattern type :: rest, h =>
      obtain ⟨args', each, h⟩ := exists_of_bind_eq_ok h
      obtain ⟨rfl, rfl⟩ := Prod.mk.inj (Except.ok.inj h)
      have each := mapM_eq_ok_iff.mp each
      exact .intro pattern type (each.imp fun _ _ => argumentOf_eq_ok_iff.mp)
  · rintro ⟨pattern, context, each⟩
    have each := mapM_eq_ok_iff.mpr (each.imp fun _ _ => argumentOf_eq_ok_iff.mpr)
    rw [splitInputs, each]
    rfl

/-! ### Shapes -/

/-- The shape of a method with an output, and the type that the output carries. A future goes before
a result, and a function that has nothing to wait for must be a notification. -/
inductive Fits (isAsync isNotification : Bool) (output : TypeExpr) : Shape → TypeExpr → Prop
  | async {result : TypeExpr} (async : isAsync = true)
      (carries : output.carried? "Result" = some result) :
      Fits isAsync isNotification output .async result
  | future {result : TypeExpr} (plain : isAsync = false)
      (carries : output.carried? "ResponseFuture" = some result) :
      Fits isAsync isNotification output .future result
  | sync {result : TypeExpr} (plain : isAsync = false) (notification : isNotification = true)
      (noFuture : output.carried? "ResponseFuture" = none)
      (carries : output.carried? "Result" = some result) :
      Fits isAsync isNotification output .sync result

theorem carried?_of_map {other : Shape} {wrapper : String}
    (h : (output.carried? wrapper).map (other, ·) = some (shape, result)) :
    other = shape ∧ output.carried? wrapper = some result := by
  obtain ⟨carried, carries, same⟩ := Option.map_eq_some_iff.mp h
  obtain ⟨rfl, rfl⟩ := Prod.mk.inj same
  exact ⟨rfl, carries⟩

theorem fits_of_classify (h : classify isAsync isNotification output = .ok (shape, result)) :
    Fits isAsync isNotification output shape result := by
  simp only [classify] at h
  split at h
  · rename_i found
    obtain rfl := Except.ok.inj h
    cases isAsync with
    | true =>
      obtain ⟨rfl, carries⟩ := carried?_of_map found
      exact .async rfl carries
    | false =>
      rw [if_neg Bool.false_ne_true, Option.or_eq_some_iff] at found
      rcases found with future | ⟨noFuture, sync⟩
      · obtain ⟨rfl, carries⟩ := carried?_of_map future
        exact .future rfl carries
      · cases isNotification with
        | true =>
          obtain ⟨rfl, carries⟩ := carried?_of_map sync
          exact .sync rfl rfl (Option.map_eq_none_iff.mp noFuture) carries
        | false => cases sync
  · cases h

/-! ### Methods -/

/-- The method that is read off a method of a trait. -/
structure TraitMethod.ReadAs (m : TraitMethod) (method : Method) : Prop where
  ident : method.ident = m.signature.ident
  unreserved : reservedNames.contains m.signature.ident = false
  notGeneric : m.signature.isGeneric = false
  options : MethodOptions.ofAttributes m.attributes = .ok method.options
  inputs : Declared m.signature.inputs method.context method.args
  output : m.signature.output = some method.output
  fits : Fits m.signature.isAsync method.options.isNotification method.output method.shape
    method.result

theorem TraitMethod.ReadAs.isNotification_of_sync {m : TraitMethod} (read : m.ReadAs method)
    (sync : method.shape = .sync) : method.options.isNotification = true := by
  have fits := read.fits
  rw [sync] at fits
  cases fits with
  | sync _ notification => exact notification

theorem exists_readAs (h : readMethodOf item = .ok method) :
    ∃ m, item = .method m ∧ m.ReadAs method := by
  cases item with
  | other => cases h
  | method m =>
    obtain ⟨options, ofAttributes, h⟩ := exists_of_bind_eq_ok h
    simp only at h
    split at h
    · cases h
    · rename_i unreserved
      split at h
      · cases h
      · rename_i notGeneric
        obtain ⟨⟨context, args⟩, split, h⟩ := exists_of_bind_eq_ok h
        cases written : m.signature.output with
        | none =>
          rw [written] at h
          cases h
        | some output =>
          rw [written] at h
          obtain ⟨⟨shape, result⟩, classified, h⟩ := exists_of_bind_eq_ok h
          obtain rfl := Except.ok.inj h
          exact ⟨m, rfl,
            { ident := rfl
              unreserved := eq_false_of_ne_true unreserved
              notGeneric := eq_false_of_ne_true notGeneric
              options := ofAttributes
              inputs := splitInputs_eq_ok_iff.mp split
              output := written
              fits := fits_of_classify classified }⟩

end DuplexRpc.Declaration

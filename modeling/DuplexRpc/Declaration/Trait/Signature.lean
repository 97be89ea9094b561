import DuplexRpc.Declaration.Trait
import DuplexRpc.Declaration.TypeExpr.Reading

/-!
Reading signatures: the qualifiers of a function, its name, its generic parameters, its inputs, its
output and its conditions.
-/

namespace DuplexRpc.Declaration

/-- A signature starts here, which may be called safe where `safe` holds. -/
def atSignature (safe : Bool) (ts : List Token) : Bool :=
  let skip (w : String) (ts : List Token) : List Token := if atWord w ts then ts.drop 1 else ts
  let ts := skip "async" (skip "const" ts)
  let ts := if safe && atWord "safe" ts then ts.drop 1 else skip "unsafe" ts
  let ts :=
    if atWord "extern" ts then
      if (stringAhead? (ts.drop 1)).isSome then ts.drop 2 else ts.drop 1
    else ts
  atWord "fn" ts

namespace Grammar

open Reader

/-- Who may see something, which may be left out: whether it is there. -/
def visibility : Reader Bool := do
  if ← skipWord "pub" then
    match ← ahead with
    | .group .paren inside :: _ =>
      if atWordOf ["crate", "self", "super"] inside then
        if inside.length = 1 then take
      else if atWord "in" inside then
        within .paren do
          take
          let _ ← plainPath
      pure true
    | _ => pure true
  else pure false

def receiver (g : Grammar) : Reader Input := do
  let isReference ← skipSign "&"
  if isReference then
    let _ ← skipLifetime
  let isMutable ← skipWord "mut"
  word "self"
  if !isReference then
    if ← skipSign ":" then
      let _ ← g.type true
  pure (.receiver isReference isMutable)

/-- An input, none where three dots stand for any number of them. A name with an angle bracket after
it is the start of a type, for an input without a pattern. -/
def input? (g : Grammar) : Reader (Option Input) := do
  if ← skipSign "..." then return none
  if let some found ← attempt g.receiver then return some found
  let ts ← ahead
  if atIdent ts && atSign "<" (ts.drop 1) then
    return some (.typed .wild (← g.type true))
  let pattern ← g.pattern
  sign ":"
  if ← skipSign "..." then return none
  pure (some (.typed pattern (← g.type true)))

/-- Refuses a receiver that is not the first input. -/
def checkReceiver (before : List Input) (found : Input) : Reading Unit :=
  if !found.isReceiver then .ok ()
  else if before.any (·.isReceiver) then .error .receiverTwice
  else if !before.isEmpty then .error .receiverNotFirst
  else .ok ()

def inputs (g : Grammar) : Reader (List Input) :=
  loop [] fun found => do
    if ← isAhead List.isEmpty then pure (found, false)
    else
      let _ ← g.outerAttributes
      match ← g.input? with
      | none => do
        unless ← isAhead List.isEmpty do sign ","
        pure (found, false)
      | some one => do
        let _ ← checkReceiver found one
        if ← isAhead List.isEmpty then pure (found ++ [one], false)
        else
          sign ","
          pure (found ++ [one], true)

/-- A signature, which may be called safe where `safe` holds. -/
def signature (g : Grammar) (safe : Bool) : Reader Signature := do
  let _ ← skipWord "const"
  let isAsync ← skipWord "async"
  let isUnsafe ← skipWord "unsafe"
  if safe && !isUnsafe then
    let _ ← skipWord "safe"
  convention
  word "fn"
  let ident ← Reader.ident
  let isGeneric ← g.parameters
  enclosed .paren g.inputs fun inputs => do
    let output ← g.result? true
    let _ ← g.conditions
    pure { isAsync, ident, isGeneric, inputs, output }

end Grammar

end DuplexRpc.Declaration

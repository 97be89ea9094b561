import DuplexRpc.Declaration.Expression

/-!
Reading closures, jumps, loops, choices and comparisons.
-/

namespace DuplexRpc.Declaration

namespace Grammar

open Reader

/-- The label of a loop or of a block, which may be left out. -/
def label : Reader Unit := do
  if ← isAhead atLifetime then
    take
    sign ":"

def closureParameter (g : Grammar) : Reader Unit := do
  let _ ← g.outerAttributes
  let _ ← g.pattern
  if ← skipSign ":" then
    let _ ← g.type true

def closure (g : Grammar) (structs : Bool) : Reader Unit := do
  let _ ← g.binder
  let _ ← skipWord "const"
  let _ ← skipWord "static"
  let _ ← skipWord "async"
  let _ ← skipWord "move"
  sign "|"
  let _ ← separated (atSign "|") "," g.closureParameter
  sign "|"
  if ← skipSign "->" then
    let _ ← g.type true
    g.block
  else
    let _ ← g.expression structs

/-- What a jump carries, if anything. -/
def carried (g : Grammar) (structs : Bool) : Reader Unit := do
  if ← isAhead Expression.canStart then
    let _ ← g.expression structs

/-- A jump out of a loop or of a block. A label in front of what it carries would be that of a
loop. -/
def jumpOut (g : Grammar) (structs : Bool) : Reader Unit := do
  word "break"
  let ts ← ahead
  if atLifetime ts && atSign ":" (ts.drop 1) then
    let _ ← g.expression true
    refuse .jumpLabel
  else
    let _ ← skipLifetime
    let ts ← ahead
    if structs || !atGroup .brace ts then g.carried structs

def binding (g : Grammar) (structs : Bool) : Reader Unit := do
  word "let"
  let _ ← g.alternatives true
  sign "="
  let left ← g.operand structs
  let _ ← g.operations structs .compare left

def choice (g : Grammar) : Reader Unit :=
  loop () fun () => do
    word "if"
    let _ ← g.expression false
    g.block
    if ← skipWord "else" then
      let ts ← ahead
      if atWord "if" ts then pure ((), true)
      else if atGroup .brace ts then
        g.block
        pure ((), false)
      else wantedOneOf ["`if`", "curly braces"]
    else pure ((), false)

/-- A loop over what an expression yields. -/
def loopOver (g : Grammar) : Reader Unit := do
  word "for"
  let _ ← g.alternatives true
  word "in"
  let _ ← g.expression false
  g.attributedBlock

def loopWhile (g : Grammar) : Reader Unit := do
  word "while"
  let _ ← g.expression false
  g.attributedBlock

def loopForever (g : Grammar) : Reader Unit := do
  word "loop"
  g.attributedBlock

def keywordBlock (g : Grammar) (keyword : String) : Reader Unit := do
  word keyword
  g.attributedBlock

/-- A loop or a block with a label. -/
def labelled (g : Grammar) : Reader Unit := do
  label
  let ts ← ahead
  if atWord "while" ts then g.loopWhile
  else if atWord "for" ts then g.loopOver
  else if atWord "loop" ts then g.loopForever
  else if atGroup .brace ts then g.attributedBlock
  else wanted "loop or block expression"

/-- One of the cases that a value is compared with. -/
def matchCase (g : Grammar) : Reader Unit := do
  let _ ← g.outerAttributes
  let _ ← g.alternatives true
  if ← skipWord "if" then
    let _ ← g.expression true
  sign "=>"
  let e ← g.leading
  if e != .block && !(← isAhead List.isEmpty) then sign ","
  else
    let _ ← skipSign ","

/-- A comparison of a value with cases. -/
def comparison (g : Grammar) : Reader Unit := do
  word "match"
  let _ ← g.expression false
  within .brace do
    let _ ← g.innerAttributes
    let _ ← manyWhile (!·.isEmpty) g.matchCase

def tryBlock (g : Grammar) : Reader Unit := do
  word "try"
  g.block

/-- A block, or something that ends with one: its reader, if one stands at the front. Such an
expression can stand as a statement. -/
def blockAhead? (g : Grammar) (ts : List Token) : Option (Reader Unit) :=
  if atWord "if" ts then some g.choice
  else if atWord "while" ts then some g.loopWhile
  else if atWord "for" ts && !atParameters (ts.drop 1) then some g.loopOver
  else if atWord "loop" ts then some g.loopForever
  else if atWord "match" ts then some g.comparison
  else if Expression.atTryBlock ts then some g.tryBlock
  else if atWord "unsafe" ts then some (g.keywordBlock "unsafe")
  else if atWord "const" ts && atGroup .brace (ts.drop 1) then some (g.keywordBlock "const")
  else if atGroup .brace ts then some g.attributedBlock
  else if atLifetime ts then some g.labelled
  else none

end Grammar

end DuplexRpc.Declaration

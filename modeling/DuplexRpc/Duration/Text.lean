import DuplexRpc.Decode.Decoder
import DuplexRpc.Duration.Basic
import DuplexRpc.Text.Blank

/-!
Spans of time as text, such as `1h 30m`: numbers, each followed by its unit. A number may have a
fraction if the span it gives is exact.
-/

namespace DuplexRpc.Duration

open Text

/-- The units of spans. -/
inductive TimeUnit where
  | nanosecond
  | microsecond
  | millisecond
  | second
  | minute
  | hour
  | day
  | week
  | month
  | year
deriving DecidableEq, Repr

namespace TimeUnit

def ofName? (name : String) : Option TimeUnit :=
  if ["nanos", "nsec", "ns"].contains name then some .nanosecond
  else if ["usec", "us", "µs"].contains name then some .microsecond
  else if ["millis", "msec", "ms"].contains name then some .millisecond
  else if ["seconds", "second", "secs", "sec", "s"].contains name then some .second
  else if ["minutes", "minute", "mins", "min", "m"].contains name then some .minute
  else if ["hours", "hour", "hrs", "hr", "h"].contains name then some .hour
  else if ["days", "day", "d"].contains name then some .day
  else if ["weeks", "week", "wks", "wk", "w"].contains name then some .week
  else if ["months", "month", "M"].contains name then some .month
  else if ["years", "year", "yrs", "yr", "y"].contains name then some .year
  else none

/-- How many of its own parts a unit has, and whether these parts are nanoseconds and not seconds.
Units below a second have nanoseconds as parts, the others seconds. -/
def parts : TimeUnit → Nat × Bool
  | .nanosecond => (1, true)
  | .microsecond => (1000, true)
  | .millisecond => (1000000, true)
  | .second => (1, false)
  | .minute => (60, false)
  | .hour => (3600, false)
  | .day => (86400, false)
  | .week => (7 * 86400, false)
  | .month => (2630016, false)
  | .year => (31557600, false)

/-- The parts that a fraction of the unit is counted in: for a second and a minute these are
nanoseconds too. A nanosecond has no fraction. -/
def fractionParts : TimeUnit → Option (Nat × Bool)
  | .nanosecond => none
  | .second => some (1000000000, true)
  | .minute => some (60 * 1000000000, true)
  | u => some u.parts

end TimeUnit

def bounded (n : Nat) : Option Nat :=
  if n < limit then some n else none

def addParts (d : Duration) (n : Nat) (areNanos : Bool) : Option Duration := do
  let (seconds, nanos) := if areNanos then (0, n) else (n, 0)
  let nanos ← bounded (d.subsecond + nanos)
  let seconds ← bounded (d.seconds + seconds + nanos / nanosPerSecond)
  some (ofParts seconds (nanos % nanosPerSecond))

/-- A fraction of a unit. -/
structure Fraction where
  numerator : Nat
  denominator : Nat

/-- Adds a number of units to a span. -/
def addUnits (d : Duration) (n : Nat) (fraction : Option Fraction) (unit : String) :
    Option Duration := do
  let unit ← TimeUnit.ofName? unit
  let (size, areNanos) := unit.parts
  let d ← addParts d (← bounded (n * size)) areNanos
  match fraction with
  | none => some d
  | some f =>
    let (size, areNanos) ← unit.fractionParts
    let total ← bounded (f.numerator * size)
    if total % f.denominator = 0 then addParts d (total / f.denominator) areNanos else none

/-- A character of the name of a unit. -/
def isUnitChar (c : Char) : Bool :=
  ('a' ≤ c && c ≤ 'z') || ('A' ≤ c && c ≤ 'Z') || c == 'µ'

def isDigit (c : Char) : Bool :=
  '0' ≤ c && c ≤ '9'

def digitValue (c : Char) : Nat :=
  c.toNat - 48

/-- What is being read of a text. -/
inductive Reading where
  /-- Between a unit and a number. -/
  | gap
  /-- In a number. -/
  | number (n : Nat)
  /-- In the fraction of a number. -/
  | fraction (n : Nat) (f : Fraction)
  /-- In the name of a unit, its characters in reverse. -/
  | unit (n : Nat) (f : Option Fraction) (name : List Char)

/-- A text that is being read: where the reading stands, and the span that was read before. -/
structure Progress where
  total : Duration
  reading : Reading

def Progress.endUnit (total : Duration) (n : Nat) (f : Option Fraction) (name : List Char) :
    Option Duration :=
  addUnits total n f (String.ofList name.reverse)

def Progress.step (p : Progress) (c : Char) : Option Progress :=
  match p.reading with
  | .gap =>
    if isDigit c then some { p with reading := .number (digitValue c) }
    else if isBlank c then some p
    else none
  | .number n =>
    if isDigit c then do
      let n ← bounded (n * 10 + digitValue c)
      some { p with reading := .number n }
    else if isBlank c then some p
    else if isUnitChar c then some { p with reading := .unit n none [c] }
    else if c = '.' then some { p with reading := .fraction n ⟨0, 1⟩ }
    else none
  | .fraction n f =>
    if isDigit c then do
      let denominator ← bounded (f.denominator * 10)
      let numerator ← bounded (f.numerator * 10 + digitValue c)
      some { p with reading := .fraction n ⟨numerator, denominator⟩ }
    else if isBlank c then some p
    else if isUnitChar c ∧ f.denominator ≠ 1 then some { p with reading := .unit n (some f) [c] }
    else none
  | .unit n f name =>
    if isDigit c then do
      let total ← Progress.endUnit p.total n f name
      some ⟨total, .number (digitValue c)⟩
    else if isBlank c then do
      let total ← Progress.endUnit p.total n f name
      some ⟨total, .gap⟩
    else if isUnitChar c then some { p with reading := .unit n f (c :: name) }
    else none

/-- The span that was read, where the text may end. -/
def Progress.finish (p : Progress) (first : Bool) : Option Duration :=
  match p.reading with
  | .gap => if first then none else some p.total
  | .unit n f name => Progress.endUnit p.total n f name
  | _ => none

/-- Reads the text of a span. The number zero needs no unit. -/
def ofText? (s : String) : Option Duration :=
  if s = "0" then some ⟨0⟩
  else do
    let p ← s.toList.foldlM Progress.step ⟨⟨0⟩, .gap⟩
    p.finish (isBlankText s)

/-- A number of units whose name takes a plural. -/
def plural (name : String) (n : Nat) : List String :=
  if n = 0 then [] else if n = 1 then [s!"1{name}"] else [s!"{n}{name}s"]

def single (name : String) (n : Nat) : List String :=
  if n = 0 then [] else [s!"{n}{name}"]

/-- The text of a span: the parts that are not zero, from years down to nanoseconds. -/
def text (d : Duration) : String :=
  let yearRest := d.seconds % 31557600
  let monthRest := yearRest % 2630016
  let dayRest := monthRest % 86400
  let parts :=
    plural "year" (d.seconds / 31557600) ++ plural "month" (yearRest / 2630016) ++
      plural "day" (monthRest / 86400) ++ single "h" (dayRest / 3600) ++
      single "m" (dayRest % 3600 / 60) ++ single "s" (dayRest % 60) ++
      single "ms" (d.subsecond / 1000000) ++ single "us" (d.subsecond / 1000 % 1000) ++
      single "ns" (d.subsecond % 1000)
  if parts.isEmpty then "0s" else " ".intercalate parts

/-- The text of a span of time. -/
def decoder : Decoder Duration :=
  .textual "a duration" fun s =>
    match ofText? s with
    | some d => .ok d
    | none => .error (.invalidValue (.text s) "a duration")

end DuplexRpc.Duration

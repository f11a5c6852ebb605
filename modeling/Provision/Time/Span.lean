import Provision.Text.Blank
import Provision.Text.Rest
import Provision.Time.Basic

/-! Durations as sums of spans such as `1h 30m`, each a number and a unit. A number may
have a fraction if it is exact: for seconds and below down to the nanosecond, for minutes
too, and for longer units down to the second. Printing uses the longest units first and
leaves out those that are zero. -/

set_option autoImplicit false

namespace Provision.Duration

open Text (Rest Remainder)

inductive SpanUnit where
  | nanosecond
  | microsecond
  | millisecond
  | second
  | minute
  | hour
  | day
  | week
  | month
  | year
deriving DecidableEq, Repr

namespace SpanUnit

/-- The names of the units. A month is 30.44 days long and a year 365.25 days. -/
def ofName? (name : String) : Option SpanUnit :=
  if name ∈ ["nanos", "nsec", "ns"] then some .nanosecond
  else if name ∈ ["usec", "us", "µs"] then some .microsecond
  else if name ∈ ["millis", "msec", "ms"] then some .millisecond
  else if name ∈ ["seconds", "second", "secs", "sec", "s"] then some .second
  else if name ∈ ["minutes", "minute", "min", "mins", "m"] then some .minute
  else if name ∈ ["hours", "hour", "hr", "hrs", "h"] then some .hour
  else if name ∈ ["days", "day", "d"] then some .day
  else if name ∈ ["weeks", "week", "wk", "wks", "w"] then some .week
  else if name ∈ ["months", "month", "M"] then some .month
  else if name ∈ ["years", "year", "yr", "yrs", "y"] then some .year
  else none

/-- The length of a unit, in nanoseconds if it is shorter than a second and in
seconds otherwise. -/
def scale : SpanUnit → Nat
  | .nanosecond => 1
  | .microsecond => 1000
  | .millisecond => 1000000
  | .second => 1
  | .minute => 60
  | .hour => 3600
  | .day => 86400
  | .week => 604800
  | .month => 2630016
  | .year => 31557600

/-- Whether `scale` counts nanoseconds. -/
def isShort : SpanUnit → Bool
  | .nanosecond => true
  | .microsecond => true
  | .millisecond => true
  | _ => false

/-- The length of a unit in the smallest steps that a fraction of it may have, and
whether those are nanoseconds. A nanosecond has no fractions. -/
def fractionScale : SpanUnit → Option (Nat × Bool)
  | .nanosecond => none
  | .microsecond => some (1000, true)
  | .millisecond => some (1000000, true)
  | .second => some (1000000000, true)
  | .minute => some (60000000000, true)
  | unit => some (unit.scale, false)

end SpanUnit

/-- Why a text does not give a duration. A sum that is out of range is malformed like any
other number that is too large, except where its nanoseconds make up one more second
than there may be: that is an overflow. -/
inductive SpanError where
  | malformed
  | overflow
deriving DecidableEq, Repr

/-- A number below 2^64, or nothing. -/
def bounded (n : Nat) : Option Nat :=
  if Word.fits 64 n then some n else none

/-- What was read, or the error that nothing was. -/
def orMalformed {α : Type} (found : Option α) : Except SpanError α :=
  found.elim (.error .malformed) .ok

/-- Adds seconds and nanoseconds. The seconds of the sum stay below 2^64, and so does the
number of nanoseconds on the way. -/
def plus (total : Duration) (seconds nanos : Nat) : Except SpanError Duration :=
  let whole := total.nanos / nanosPerSecond + seconds
  let part := total.nanos % nanosPerSecond + nanos
  if !Word.fits 64 part then .error .malformed
  else if Word.fits 64 (whole + part / nanosPerSecond) then
    .ok ⟨total.nanos + seconds * nanosPerSecond + nanos⟩
  else if Word.fits 64 whole ∧ part = nanosPerSecond then .error .overflow
  else .error .malformed

/-- Adds an amount that is counted in nanoseconds or in seconds. -/
def plusCounted (total : Duration) (amount : Nat) (inNanos : Bool) : Except SpanError Duration :=
  if inNanos then total.plus 0 amount else total.plus amount 0

/-- A number and, after a point, a numerator over a power of ten. -/
structure Amount where
  whole : Nat
  fraction : Option (Nat × Nat)
deriving DecidableEq, Repr

/-- Adds an amount of a unit: its whole part, and then its fraction. -/
def plusSpan (total : Duration) (amount : Amount) (unit : SpanUnit) :
    Except SpanError Duration := do
  let count ← orMalformed (bounded (amount.whole * unit.scale))
  let total ← total.plusCounted count unit.isShort
  match amount.fraction with
  | none => return total
  | some (numerator, denominator) =>
    let (scale, inNanos) ← orMalformed unit.fractionScale
    let product ← orMalformed (bounded (numerator * scale))
    if product % denominator = 0 then total.plusCounted (product / denominator) inNanos
    else throw .malformed

/-- The letters that names of units are made of. -/
def isUnitChar (c : Char) : Bool :=
  c.isAlpha || c == 'µ'

/-- Reads digits and blanks up to a point, a letter or the end. -/
def wholePart? (n : Nat) : (s : List Char) → Option (Nat × Remainder s)
  | [] => some (n, ⟨[], Nat.le_refl _⟩)
  | c :: rest =>
    if c.isDigit then do
      let n ← bounded (n * 10 + (c.toNat - '0'.toNat))
      let (n, ⟨r, le⟩) ← wholePart? n rest
      return (n, ⟨r, Nat.le_succ_of_le le⟩)
    else if Text.isBlank c then do
      let (n, ⟨r, le⟩) ← wholePart? n rest
      return (n, ⟨r, Nat.le_succ_of_le le⟩)
    else if isUnitChar c || c == '.' then some (n, ⟨c :: rest, Nat.le_refl _⟩)
    else none

/-- Reads digits and blanks up to a letter or the end, as numerator and denominator. -/
def fractionPart? (numerator denominator : Nat) :
    (s : List Char) → Option ((Nat × Nat) × Remainder s)
  | [] => some ((numerator, denominator), ⟨[], Nat.le_refl _⟩)
  | c :: rest =>
    if c.isDigit then do
      let numerator ← bounded (numerator * 10 + (c.toNat - '0'.toNat))
      let denominator ← bounded (denominator * 10)
      let (value, ⟨r, le⟩) ← fractionPart? numerator denominator rest
      return (value, ⟨r, Nat.le_succ_of_le le⟩)
    else if Text.isBlank c then do
      let (value, ⟨r, le⟩) ← fractionPart? numerator denominator rest
      return (value, ⟨r, Nat.le_succ_of_le le⟩)
    else if isUnitChar c then some ((numerator, denominator), ⟨c :: rest, Nat.le_refl _⟩)
    else none

/-- Reads a number that starts with a given digit. A point has a digit after it. -/
def amount? (first : Nat) (s : List Char) : Option (Amount × Remainder s) := do
  match ← wholePart? first s with
  | (whole, ⟨'.' :: rest, le⟩) =>
    let ((numerator, denominator), ⟨r, le'⟩) ← fractionPart? 0 1 rest
    if denominator = 1 then none
    else
      return (⟨whole, some (numerator, denominator)⟩,
        ⟨r, by simp only [List.length_cons] at le; omega⟩)
  | (whole, rest) => return (⟨whole, none⟩, rest)

/-- Reads the name of a unit. It ends before a digit, after a blank, or at the end. -/
def unitName? : (s : List Char) → Option (List Char × Remainder s)
  | [] => some ([], ⟨[], Nat.le_refl _⟩)
  | c :: rest =>
    if c.isDigit then some ([], ⟨c :: rest, Nat.le_refl _⟩)
    else if Text.isBlank c then some ([], ⟨rest, Nat.le_succ _⟩)
    else if isUnitChar c then do
      let (name, ⟨r, le⟩) ← unitName? rest
      return (c :: name, ⟨r, Nat.le_succ_of_le le⟩)
    else none

/-- Reads a span that starts with a given digit. -/
def span? (first : Nat) (s : List Char) : Option ((Amount × SpanUnit) × Remainder s) := do
  let (amount, ⟨r, le⟩) ← amount? first s
  let (name, ⟨r', le'⟩) ← unitName? r
  return ((amount, ← SpanUnit.ofName? (String.ofList name)), ⟨r', Nat.le_trans le' le⟩)

/-- Adds the spans of a text up to its end. -/
def plusSpans (total : Duration) (s : List Char) : Except SpanError Duration :=
  match Text.skipWhile Text.isBlank s with
  | ⟨[], _⟩ => .ok total
  | ⟨c :: rest, le⟩ =>
    if c.isDigit then do
      let ((amount, unit), ⟨r, le'⟩) ← orMalformed (span? (c.toNat - '0'.toNat) rest)
      let total ← total.plusSpan amount unit
      have : r.length < s.length := by simp only [List.length_cons] at le; omega
      plusSpans total r
    else .error .malformed
termination_by s.length

/-- The duration that a text describes: a lone `0`, or at least one span. -/
def ofText (s : String) : Except SpanError Duration :=
  if s = "0" then .ok ⟨0⟩
  else if s.toList.all Text.isBlank then .error .malformed
  else plusSpans ⟨0⟩ s.toList

/-- A part of a description whose unit takes a plural, unless there is none of it. -/
def pluralPart (n : Nat) (unit : String) : List String :=
  if n = 0 then [] else [toString n ++ unit ++ if 1 < n then "s" else ""]

/-- A part of a description, unless there is none of it. -/
def shortPart (n : Nat) (unit : String) : List String :=
  if n = 0 then [] else [toString n ++ unit]

def text (d : Duration) : String :=
  let seconds := d.nanos / nanosPerSecond
  let nanos := d.nanos % nanosPerSecond
  let inYear := seconds % SpanUnit.scale .year
  let inMonth := inYear % SpanUnit.scale .month
  let inDay := inMonth % SpanUnit.scale .day
  if d.nanos = 0 then "0s"
  else
    String.intercalate " "
      (pluralPart (seconds / SpanUnit.scale .year) "year" ++
        pluralPart (inYear / SpanUnit.scale .month) "month" ++
        pluralPart (inMonth / SpanUnit.scale .day) "day" ++
        shortPart (inDay / 3600) "h" ++ shortPart (inDay % 3600 / 60) "m" ++
        shortPart (inDay % 60) "s" ++ shortPart (nanos / 1000000) "ms" ++
        shortPart (nanos / 1000 % 1000) "us" ++ shortPart (nanos % 1000) "ns")

end Provision.Duration

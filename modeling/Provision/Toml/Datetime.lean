import Provision.Text.Numeral

/-! The four kinds of dates and times of a TOML document, read from text and written in
their normal form: a capital `T` between date and time, seconds always present, and a
fraction of at most nine digits without trailing zeros. -/

set_option autoImplicit false

namespace Provision.Toml

structure Date where
  year : Nat
  month : Nat
  day : Nat
deriving DecidableEq, Repr

structure Time where
  hour : Nat
  minute : Nat
  second : Nat
  nanosecond : Nat
deriving DecidableEq, Repr

/-- The offset of a time from universal time: the letter `Z`, or minutes with a sign. -/
inductive Offset where
  | universal
  | minutes (value : Int)
deriving DecidableEq, Repr

inductive Datetime where
  | zoned (day : Date) (clock : Time) (offset : Offset)
  | unzoned (day : Date) (clock : Time)
  | date (day : Date)
  | time (clock : Time)
deriving DecidableEq, Repr

def isLeapYear (year : Nat) : Bool :=
  (year % 4 == 0 && year % 100 != 0) || year % 400 == 0

def daysInMonth (year month : Nat) : Nat :=
  if month = 2 then (if isLeapYear year then 29 else 28)
  else if month = 4 ∨ month = 6 ∨ month = 9 ∨ month = 11 then 30
  else 31

def fixedDigits? (count : Nat) (cs : List Char) : Option (Nat × List Char) :=
  let ds := cs.take count
  if ds.length = count then (Text.digitsValue? ds).map (·, cs.drop count) else none

def expect? (c : Char) : List Char → Option (List Char)
  | [] => none
  | d :: rest => if d = c then some rest else none

/-- Reads a date that exists in the calendar. -/
def date? (cs : List Char) : Option (Date × List Char) := do
  let (year, cs) ← fixedDigits? 4 cs
  let cs ← expect? '-' cs
  let (month, cs) ← fixedDigits? 2 cs
  let cs ← expect? '-' cs
  let (day, cs) ← fixedDigits? 2 cs
  if 1 ≤ month ∧ month ≤ 12 ∧ 1 ≤ day ∧ day ≤ daysInMonth year month then
    return (⟨year, month, day⟩, cs)
  else none

/-- The nanoseconds of a fraction; digits after the ninth are dropped. -/
def nanoseconds (fraction : List Char) : Nat :=
  let ds := fraction.take 9
  Nat.ofDigitChars 10 (ds ++ List.replicate (9 - ds.length) '0') 0

/-- Reads the fraction of a second, if there is one. -/
def fraction? : List Char → Option (Nat × List Char)
  | '.' :: cs =>
    let ds := cs.takeWhile Char.isDigit
    if ds.isEmpty then none else some (nanoseconds ds, cs.dropWhile Char.isDigit)
  | cs => some (0, cs)

/-- Reads the seconds and their fraction, if there are any. -/
def seconds? : List Char → Option (Nat × Nat × List Char)
  | ':' :: cs => do
    let (second, cs) ← fixedDigits? 2 cs
    let (nanosecond, cs) ← fraction? cs
    return (second, nanosecond, cs)
  | cs => some (0, 0, cs)

/-- Reads a time of day; the second may be a leap second. -/
def time? (cs : List Char) : Option (Time × List Char) := do
  let (hour, cs) ← fixedDigits? 2 cs
  let cs ← expect? ':' cs
  let (minute, cs) ← fixedDigits? 2 cs
  let (second, nanosecond, cs) ← seconds? cs
  if hour ≤ 23 ∧ minute ≤ 59 ∧ second ≤ 60 then
    return (⟨hour, minute, second, nanosecond⟩, cs)
  else none

/-- Reads the hours and minutes of an offset up to the end of the text. -/
def offsetMinutes? (cs : List Char) : Option Nat := do
  let (hours, cs) ← fixedDigits? 2 cs
  let cs ← expect? ':' cs
  let (minutes, cs) ← fixedDigits? 2 cs
  if cs.isEmpty ∧ hours ≤ 23 ∧ minutes ≤ 59 then return hours * 60 + minutes else none

/-- Reads an offset that takes up the rest of a text. -/
def offset? : List Char → Option Offset
  | ['Z'] => some .universal
  | ['z'] => some .universal
  | '+' :: cs => (offsetMinutes? cs).map fun m => .minutes m
  | '-' :: cs => (offsetMinutes? cs).map fun m => .minutes (-(m : Int))
  | _ => none

/-- Reads a date and time, a date or a time that takes up a whole text. -/
def Datetime.ofChars? (cs : List Char) : Option Datetime :=
  match date? cs with
  | some (day, []) => some (.date day)
  | some (day, separator :: cs) =>
    if separator = 'T' ∨ separator = 't' ∨ separator = ' ' then
      match time? cs with
      | none => none
      | some (clock, []) => some (.unzoned day clock)
      | some (clock, cs) => (offset? cs).map fun offset => .zoned day clock offset
    else none
  | none =>
    match time? cs with
    | some (clock, []) => some (.time clock)
    | _ => none

/-- A number with zeros in front up to a width. -/
def padded (width n : Nat) : String :=
  let ds := Nat.toDigits 10 n
  String.ofList (List.replicate (width - ds.length) '0' ++ ds)

def Date.text (d : Date) : String :=
  padded 4 d.year ++ "-" ++ padded 2 d.month ++ "-" ++ padded 2 d.day

/-- The fraction of a second after its point, without trailing zeros. -/
def fractionText (nanosecond : Nat) : String :=
  if nanosecond = 0 then ""
  else
    let ds := (padded 9 nanosecond).toList.reverse.dropWhile (· == '0')
    "." ++ String.ofList ds.reverse

def Time.text (t : Time) : String :=
  padded 2 t.hour ++ ":" ++ padded 2 t.minute ++ ":" ++ padded 2 t.second ++
    fractionText t.nanosecond

def Offset.text : Offset → String
  | .universal => "Z"
  | .minutes value =>
    (if value < 0 then "-" else "+") ++ padded 2 (value.natAbs / 60) ++ ":" ++
      padded 2 (value.natAbs % 60)

def Datetime.text : Datetime → String
  | .zoned day clock offset => day.text ++ "T" ++ clock.text ++ offset.text
  | .unzoned day clock => day.text ++ "T" ++ clock.text
  | .date day => day.text
  | .time clock => clock.text

end Provision.Toml

import Provision.Text.Cut
import Provision.Toml.Value

/-! Booleans, numbers, dates and times, each read from the characters that one of them
takes up. What has the look of a number but does not denote one is kept as written: a mark
of a base without digits, foreign characters among digits, and floating-point numbers
beyond the finite ones. -/

set_option autoImplicit false

namespace Provision.Toml

inductive Sign where
  | absent
  | plus
  | minus
deriving DecidableEq, Repr

/-- The sign at the front of a text, and what follows it. -/
def cutSign (cs : List Char) : Sign × List Char :=
  match cs with
  | '+' :: rest => (.plus, rest)
  | '-' :: rest => (.minus, rest)
  | _ => (.absent, cs)

/-- Digits that may have single underscores between them, without the underscores. -/
def groupedDigits? (isDigit : Char → Bool) (cs : List Char) : Option (List Char) :=
  let groups := cs.splitOn '_'
  if groups.all (fun ds => !ds.isEmpty && ds.all isDigit) then some groups.flatten else none

/-- Decimal digits without a zero in front of other digits. One underscore may stand
between a sign and the digits, and then zeros may follow it. -/
def decimalDigits? (sign : Sign) (cs : List Char) : Option (List Char) :=
  match sign, cs with
  | .plus, '_' :: ds => groupedDigits? Char.isDigit ds
  | .minus, '_' :: ds => groupedDigits? Char.isDigit ds
  | _, ds => (groupedDigits? Char.isDigit ds).filter fun ds => ds == ['0'] || ds.head? != some '0'

/-- The number that digits of some base denote. -/
def inBase (base : Nat) (ds : List Char) : Nat :=
  ds.foldl (fun n d => n * base + (Text.hexValue? d).getD 0) 0

/-- Whether a character is a digit of a base up to sixteen. -/
def isDigitOf (base : Nat) (c : Char) : Bool :=
  match Text.hexValue? c with
  | some n => n < base
  | none => false

/-- What follows the mark of a base: its digits, or nothing. -/
def markedDigits? (base : Nat) (cs : List Char) : Option (List Char) :=
  if cs.isEmpty then some [] else groupedDigits? (isDigitOf base) cs

/-- The characters of a decimal number in groups, without the underscores. After the first
group any characters will do for which a number is not taken for one with a fraction or an
exponent, as long as there are digits of some base next to the underscores. -/
def looseDigits? (sign : Sign) (cs : List Char) : Option (List Char) :=
  match cs.splitOn '_' with
  | leading :: later =>
    let leads := leading.all Char.isDigit && leading.head? != some '0' &&
      (sign != .absent || !leading.isEmpty)
    let follows := !later.isEmpty && later.all (fun ds => ds.head?.any (isDigitOf 16)) &&
      later.dropLast.all (fun ds => ds.getLast?.any (isDigitOf 16))
    let plain := cs.all fun c => c != '.' && c != 'e' && c != 'E' && c != ' '
    if leads && follows && plain then some (leading ++ later.flatten) else none
  | [] => none

/-- The base of a whole number, and the characters of its digits. -/
def wholeDigits? (sign : Sign) (cs : List Char) : Option (Nat × List Char) :=
  match sign, cs with
  | .absent, '0' :: 'x' :: ds => (markedDigits? 16 ds).map (16, ·)
  | .absent, '0' :: 'o' :: ds => (markedDigits? 8 ds).map (8, ·)
  | .absent, '0' :: 'b' :: ds => (markedDigits? 2 ds).map (2, ·)
  | sign, ds => ((decimalDigits? sign ds).or (looseDigits? sign ds)).map (10, ·)

/-- A whole number: decimal with an optional sign, or with a mark for another base. -/
def integer? (cs : List Char) : Option Scalar :=
  let (sign, magnitude) := cutSign cs
  (wholeDigits? sign magnitude).map fun (base, ds) =>
    if ds.isEmpty || !ds.all (isDigitOf base) then .numeral (String.ofList cs)
    else .integer (if sign = .minus then -(inBase base ds : Int) else inBase base ds)

/-- The exponent of a floating-point number; zeros in front are allowed. -/
def exponent? (cs : List Char) : Option Int :=
  let (sign, ds) := cutSign cs
  (groupedDigits? Char.isDigit ds).map fun ds =>
    if sign = .minus then -(inBase 10 ds : Int) else inBase 10 ds

/-- A floating-point number with a fraction or an exponent. It is infinite if it lies
beyond the finite ones. -/
def decimalFloat? (sign : Sign) (cs : List Char) : Option Float64 := do
  let (mantissa, exponentText) := Text.cutFirst (fun c => c == 'e' || c == 'E') cs
  let (wholeText, fractionText) := Text.cutFirst (· == '.') mantissa
  if exponentText.isNone && fractionText.isNone then none
  else
    let whole ← decimalDigits? sign wholeText
    let fraction ← match fractionText with
      | none => some []
      | some ds => groupedDigits? Char.isDigit ds
    let power ← match exponentText with
      | none => some 0
      | some ds => exponent? ds
    let digits := inBase 10 (whole ++ fraction)
    return Float64.ofDecimal (sign = .minus) digits (power - fraction.length)

/-- A floating-point number, infinite and undefined ones included. -/
def float? (cs : List Char) : Option Scalar :=
  let (sign, magnitude) := cutSign cs
  if magnitude = ['i', 'n', 'f'] then some (.float (.infinite (sign = .minus)))
  else if magnitude = ['n', 'a', 'n'] then some (.float .nan)
  else
    (decimalFloat? sign magnitude).map fun value =>
      if value.isInfinite then .numeral (String.ofList cs) else .float value

/-- The scalar that takes up all of the given characters. -/
def scalar? (cs : List Char) : Option Scalar :=
  if cs = ['t', 'r', 'u', 'e'] then some (.bool true)
  else if cs = ['f', 'a', 'l', 's', 'e'] then some (.bool false)
  else ((integer? cs).or (float? cs)).or ((Datetime.ofChars? cs).map .datetime)

end Provision.Toml

import Provision.Float64.Basic

/-! The fewest decimal digits that read back as a given floating-point number. Among the
decimals of that many digits that read back, the nearest one is taken. The digits are
found by trying one decimal grid after the other, from one digit to seventeen: if any
point of a grid reads back, then one of the two neighbours of the number on that grid
does. Where both do and are equally near, the caller says which one is meant. -/

set_option autoImplicit false

namespace Provision.Float64

/-- Which of two equally near decimals is meant: the upper one, or the one whose last
digit is even. -/
inductive TieRule where
  | upper
  | even
deriving DecidableEq, Repr

/-- A positive decimal `digits * 10 ^ exponent`. -/
structure Decimal where
  digits : Nat
  exponent : Int
deriving DecidableEq, Repr

/-- How many decimal digits a natural number has; zero has none. -/
def decimalLength (n : Nat) : Nat :=
  if n = 0 then 0 else (Nat.toDigits 10 n).length

/-- The position `p` of the leading digit: `10 ^ (p - 1) ≤ num / den < 10 ^ p`. -/
def decimalOrder (num den : Nat) : Int :=
  if den ≤ num then decimalLength (num / den) else 1 - (decimalLength ((den - 1) / num) : Int)

/-- Removes trailing zeros from the digits, at most `fuel` of them. -/
def Decimal.trimZeros : Nat → Decimal → Decimal
  | 0, d => d
  | fuel + 1, d =>
    if d.digits ≠ 0 ∧ d.digits % 10 = 0 then
      Decimal.trimZeros fuel ⟨d.digits / 10, d.exponent + 1⟩
    else d

/-- The numbers that read back as one floating-point number, all over one
denominator: they lie between `low` and `high`, ends included if `closed`. -/
structure Neighbourhood where
  low : Nat
  value : Nat
  high : Nat
  den : Nat
  closed : Bool

/-- The neighbourhood of `mantissa * 2 ^ exponent`. The gap below a power of two
is half the gap above it. -/
def neighbourhood (mantissa : Nat) (exponent : Int) : Neighbourhood :=
  let below := if mantissa = 1 <<< 52 ∧ -1074 < exponent then 1 else 2
  let scale := fun n => if exponent < 2 then n else n <<< (exponent - 2).toNat
  { low := scale (4 * mantissa - below)
    value := scale (4 * mantissa)
    high := scale (4 * mantissa + 2)
    den := if exponent < 2 then 1 <<< (2 - exponent).toNat else 1
    closed := mantissa % 2 = 0 }

/-- Whether `digits * 10 ^ exponent` reads back. -/
def Neighbourhood.contains (near : Neighbourhood) (d : Decimal) : Bool :=
  let (num, den) :=
    if d.exponent < 0 then (d.digits * near.den, Nat.pow 10 (-d.exponent).toNat)
    else (d.digits * Nat.pow 10 d.exponent.toNat * near.den, 1)
  if near.closed then near.low * den ≤ num && num ≤ near.high * den
  else near.low * den < num && num < near.high * den

/-- The nearer of the two neighbours on the grid of `10 ^ exponent` that read back. -/
def Neighbourhood.onGrid? (near : Neighbourhood) (tie : TieRule) (exponent : Int) :
    Option Decimal :=
  let (num, den) :=
    if exponent < 0 then (near.value * Nat.pow 10 (-exponent).toNat, near.den)
    else (near.value, near.den * Nat.pow 10 exponent.toNat)
  let below : Decimal := ⟨num / den, exponent⟩
  let above : Decimal := ⟨num / den + 1, exponent⟩
  match near.contains below && below.digits != 0, near.contains above with
  | true, true =>
    if 2 * (num % den) < den then some below
    else if den < 2 * (num % den) then some above
    else if tie = .even ∧ below.digits % 2 = 0 then some below
    else some above
  | true, false => some below
  | false, true => some above
  | false, false => none

/-- The shortest digits of a positive finite number. -/
def shortest (tie : TieRule) (mantissa : Nat) (exponent : Int) : Decimal :=
  let near := neighbourhood mantissa exponent
  let order := decimalOrder near.value near.den
  let found := (List.range 17).findSome? fun (n : Nat) => near.onGrid? tie (order - (n + 1))
  (found.getD ⟨mantissa, exponent⟩).trimZeros 20

/-- Positional notation: all digits of the whole part, a point, and at least one digit. -/
def Decimal.positional (d : Decimal) : String :=
  let ds := Nat.toDigits 10 d.digits
  let point := ds.length + d.exponent
  if point ≤ 0 then String.ofList ('0' :: '.' :: List.replicate (-point).toNat '0' ++ ds)
  else if 0 ≤ d.exponent then
    String.ofList (ds ++ List.replicate d.exponent.toNat '0' ++ ['.', '0'])
  else String.ofList (ds.take point.toNat ++ '.' :: ds.drop point.toNat)

/-- Scientific notation: one digit, a point if more follow, and a signed exponent. -/
def Decimal.scientific (d : Decimal) : String :=
  let ds := Nat.toDigits 10 d.digits
  let order := ds.length + d.exponent - 1
  let fraction := if ds.length ≤ 1 then [] else '.' :: ds.drop 1
  let sign := if order < 0 then '-' else '+'
  String.ofList (ds.take 1 ++ fraction ++ 'e' :: sign :: Nat.toDigits 10 order.natAbs)

/-- The power of ten of the leading digit. -/
def Decimal.order (d : Decimal) : Int :=
  (Nat.toDigits 10 d.digits).length + d.exponent - 1

/-- The sign of a number as it is written. -/
def signText (negative : Bool) : String :=
  if negative then "-" else ""

end Provision.Float64

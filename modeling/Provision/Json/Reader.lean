import Provision.Json.Term
import Provision.Json.Value

/-! What a term of JSON text stands for. A value exists only if every string is made of
whole characters, every number is in range and nothing is nested too deeply. Of members
with the same key the last one counts. -/

set_option autoImplicit false

namespace Provision.Json

/-- The character for two halves of a surrogate pair. -/
def pairChar (high low : Nat) : Char :=
  Char.ofNat (0x10000 + (high - 0xD800) * 0x400 + (low - 0xDC00))

/-- The characters that the pieces of a string stand for. An escape that is half of
a surrogate pair has to stand next to its other half, and no byte may be stray. -/
def chars? : List Piece → Option (List Char)
  | [] => some []
  | .char c :: rest => (chars? rest).map (c :: ·)
  | .code unit :: rest =>
    if unit < 0xD800 ∨ 0xDFFF < unit then (chars? rest).map (Char.ofNat unit :: ·)
    else
      match rest with
      | .code low :: rest' =>
        if unit < 0xDC00 ∧ 0xDC00 ≤ low ∧ low ≤ 0xDFFF then
          (chars? rest').map (pairChar unit low :: ·)
        else none
      | _ => none
  | .stray _ :: _ => none

def text? (pieces : List Piece) : Option String :=
  (chars? pieces).map String.ofList

/-- Takes digits into a number as long as it stays below 2^64. The result is the
number and the digits that were left out. -/
def takeDigits (start : Nat) : List Char → Nat × List Char
  | [] => (start, [])
  | d :: rest =>
    let next := start * 10 + (d.toNat - '0'.toNat)
    if Word.fits 64 next then takeDigits next rest else (start, d :: rest)

/-- Divides by a power of ten. Beyond 10^308 it divides in steps of 10^308. -/
def divideByPowerOfTen (x : Float64) (k : Nat) : Float64 :=
  if k ≤ 308 then x.div (Float64.powerOfTen k)
  else if x.isZero then x
  else divideByPowerOfTen (x.div (Float64.powerOfTen 308)) (k - 308)
termination_by k

/-- The floating-point number for `significand * 10 ^ exponent`: the significand is
rounded first, and the scaled number again. There is none beyond the finite range. -/
def scaled? (significand : Nat) (exponent : Int) : Option Float64 :=
  let x := Float64.ofNat significand
  if exponent < 0 then some (divideByPowerOfTen x exponent.natAbs)
  else if exponent ≤ 308 then
    let product := x.mul (Float64.powerOfTen exponent.toNat)
    if product.isInfinite then none else some product
  else if x.isZero then some x
  else none

/-- The exponent of a number with its sign. -/
def Numeral.tenPower (n : Numeral) : Int :=
  match n.exponent with
  | none => 0
  | some (negative, ds) =>
    let power : Int := Nat.ofDigitChars 10 ds 0
    if negative then -power else power

/-- The floating-point number that a numeral stands for. The significand is made of
the leading digits that fit 64 bits; later digits of the whole part count only as
places, later digits of the fraction not at all. -/
def Numeral.float? (n : Numeral) : Option Float64 := do
  let (start, places) := takeDigits 0 n.whole
  let fraction := n.fraction.getD []
  let (significand, unused) := takeDigits start fraction
  let shift : Int := (places.length : Int) - (fraction.length - unused.length)
  let magnitude ← scaled? significand (shift + n.tenPower)
  return if n.negative then magnitude.neg else magnitude

/-- A numeral without fraction and exponent is a whole number if it fits 64 bits;
minus zero and all others are floating-point numbers. -/
def Numeral.number? (n : Numeral) : Option Number :=
  let magnitude := Nat.ofDigitChars 10 n.whole 0
  let isWhole := n.fraction.isNone && n.exponent.isNone
  if isWhole && !n.negative && Word.fits 64 magnitude then some (.integer magnitude)
  else if isWhole && n.negative && 0 < magnitude && Word.fitsSigned 64 (-(magnitude : Int)) then
    some (.integer (-(magnitude : Int)))
  else n.float?.map .float

mutual

/-- The value of a term in which at most `room` arrays and objects are nested. -/
def Term.value? (room : Nat) : Term → Option Value
  | .null => some .null
  | .bool value => some (.bool value)
  | .number value => value.number?.map .number
  | .string pieces => (text? pieces).map .string
  | .array items =>
    match room with
    | 0 => none
    | inner + 1 => (itemValues? inner items).map .array
  | .object members =>
    match room with
    | 0 => none
    | inner + 1 => (memberValues? inner members []).map .object

/-- The values of the items of an array, in order. -/
def itemValues? (room : Nat) : List Term → Option (List Value)
  | [] => some []
  | item :: rest => do
    let value ← item.value? room
    let values ← itemValues? room rest
    return value :: values

/-- The members of an object with ascending keys, set one after the other. -/
def memberValues? (room : Nat) :
    List (List Piece × Term) → List (String × Value) → Option (List (String × Value))
  | [], done => some done
  | (key, member) :: rest, done => do
    let key ← text? key
    let value ← member.value? room
    memberValues? room rest (Keyed.set key value done)

end

/-- How many arrays and objects may be nested. -/
def depthLimit : Nat := 127

/-- The value that a JSON text stands for. -/
def Value.ofText? (s : String) : Option Value := do
  (← Term.ofSymbols? (Text.Symbol.ofString s)).value? depthLimit

end Provision.Json

/-! The 64-bit binary floating-point numbers as signs, mantissas and exponents, with one
rounding rule: the nearest number, and of two equally near ones the one with the even
mantissa. Every operation computes its exact rational result first and rounds once. -/

set_option autoImplicit false

namespace Provision

/-- A floating-point number. A finite one is `mantissa * 2 ^ exponent` with its
sign; the mantissa stays below 2^53 and the exponent between -1074 and 971, and
the mantissa is at least 2^52 unless the exponent is the smallest one. -/
inductive Float64 where
  | finite (negative : Bool) (mantissa : Nat) (exponent : Int)
  | infinite (negative : Bool)
  | nan
deriving DecidableEq, Repr

namespace Float64

/-- The quotient rounded to the nearest whole number, a half going to the even one. -/
def roundQuotient (num den : Nat) : Nat :=
  let low := num / den
  let twice := 2 * (num % den)
  if twice < den then low
  else if den < twice then low + 1
  else if low % 2 = 0 then low else low + 1

def zero (negative : Bool) : Float64 :=
  .finite negative 0 (-1074)

/-- The ratio of two positive numbers as a ratio of `2 ^ exponent`. -/
def inUnits (num den : Nat) (exponent : Int) : Nat × Nat :=
  if exponent < 0 then (num <<< (-exponent).toNat, den) else (num, den <<< exponent.toNat)

/-- The whole part of the binary logarithm of `num / den`. -/
def binaryOrder (num den : Nat) : Int :=
  let guess : Int := (Nat.log2 num : Int) - Nat.log2 den
  let (scaledNum, scaledDen) := inUnits num den guess
  if scaledDen ≤ scaledNum then guess else guess - 1

/-- The number nearest to `num / den`. Beyond the largest finite number it is infinite. -/
def ofRatio (negative : Bool) (num den : Nat) : Float64 :=
  if num = 0 then zero negative
  else
    let exponent := max (binaryOrder num den - 52) (-1074)
    let (scaledNum, scaledDen) := inUnits num den exponent
    let mantissa := roundQuotient scaledNum scaledDen
    let (mantissa, exponent) :=
      if mantissa = 1 <<< 53 then (1 <<< 52, exponent + 1) else (mantissa, exponent)
    if 971 < exponent then .infinite negative else .finite negative mantissa exponent

def ofNat (n : Nat) : Float64 :=
  ofRatio false n 1

def ofInt (n : Int) : Float64 :=
  ofRatio (n < 0) n.natAbs 1

/-- The number nearest to `digits * 10 ^ exponent`. Exponents far out of range are
decided by the position of the leading digit. -/
def ofDecimal (negative : Bool) (digits : Nat) (exponent : Int) : Float64 :=
  let leading := (Nat.toDigits 10 digits).length + exponent
  if digits = 0 then zero negative
  else if 310 < leading then .infinite negative
  else if leading < -330 then zero negative
  else if exponent < 0 then ofRatio negative digits (Nat.pow 10 (-exponent).toNat)
  else ofRatio negative (digits * Nat.pow 10 exponent.toNat) 1

/-- The absolute value of a finite number as a ratio. -/
def toRatio (mantissa : Nat) (exponent : Int) : Nat × Nat :=
  if exponent < 0 then (mantissa, 1 <<< (-exponent).toNat) else (mantissa <<< exponent.toNat, 1)

def isInfinite : Float64 → Bool
  | .infinite _ => true
  | _ => false

def isZero : Float64 → Bool
  | .finite _ 0 _ => true
  | _ => false

def neg : Float64 → Float64
  | .finite negative mantissa exponent => .finite (!negative) mantissa exponent
  | .infinite negative => .infinite !negative
  | .nan => .nan

/-- The rounded product of two numbers, of which only finite ones are multiplied. -/
def mul : Float64 → Float64 → Float64
  | .finite s m e, .finite t n f =>
    let (num, den) := toRatio m e
    let (num', den') := toRatio n f
    ofRatio (s != t) (num * num') (den * den')
  | .infinite s, .finite t _ _ => .infinite (s != t)
  | .finite s _ _, .infinite t => .infinite (s != t)
  | .infinite s, .infinite t => .infinite (s != t)
  | _, _ => .nan

/-- The rounded quotient of two finite numbers, of which the second is not zero. -/
def div : Float64 → Float64 → Float64
  | .finite s m e, .finite t n f =>
    let (num, den) := toRatio m e
    let (num', den') := toRatio n f
    if n = 0 then .nan else ofRatio (s != t) (num * den') (den * num')
  | _, _ => .nan

/-- The number nearest to a power of ten. -/
def powerOfTen (k : Nat) : Float64 :=
  ofRatio false (Nat.pow 10 k) 1

end Float64

end Provision

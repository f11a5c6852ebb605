import Provision.Text.Blank
import Provision.Word

/-! Whole numbers written with ASCII digits, as they are read from values and from section
names. A numeral has at least one digit and no separators; leading zeros are allowed. -/

set_option autoImplicit false

namespace Provision.Text

/-- The number that a non-empty run of ASCII digits denotes. -/
def digitsValue? (cs : List Char) : Option Nat :=
  if cs.isEmpty || !cs.all Char.isDigit then none else some (Nat.ofDigitChars 10 cs 0)

/-- An optional plus sign and digits, below 2^64. -/
def unsigned64? (s : String) : Option Nat :=
  let digits := match s.toList with
    | '+' :: rest => rest
    | cs => cs
  (digitsValue? digits).filter (Word.fits 64)

/-- An optional sign and digits, from -2^63 up to but not including 2^63. -/
def signed64? (s : String) : Option Int :=
  let value := match s.toList with
    | '-' :: rest => (digitsValue? rest).map fun n => -(n : Int)
    | '+' :: rest => (digitsValue? rest).map fun n => (n : Int)
    | cs => (digitsValue? cs).map fun n => (n : Int)
  value.filter (Word.fitsSigned 64)

/-- Lower-case hexadecimal digits of a number, most significant first. -/
def hexDigits (n : Nat) : List Char :=
  Nat.toDigits 16 n

/-- The value of one hexadecimal digit of either case. -/
def hexValue? (c : Char) : Option Nat :=
  if c.isDigit then some (c.toNat - '0'.toNat)
  else if 'a' ≤ c && c ≤ 'f' then some (c.toNat - 'a'.toNat + 10)
  else if 'A' ≤ c && c ≤ 'F' then some (c.toNat - 'A'.toNat + 10)
  else none

end Provision.Text

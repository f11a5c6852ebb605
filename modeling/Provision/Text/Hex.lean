import Provision.Text.Numeral

/-! Bytes as pairs of lower-case hexadecimal digits, and back. Digits of either case are
read. -/

set_option autoImplicit false

namespace Provision.Text

/-- The two digits of a byte. -/
def byteDigits (b : UInt8) : List Char :=
  [Nat.digitChar (b.toNat / 16), Nat.digitChar (b.toNat % 16)]

/-- The digits of all bytes, one byte after the other. -/
def hexOfBytes (bytes : ByteArray) : String :=
  String.ofList (bytes.data.toList.flatMap byteDigits)

/-- The bytes that pairs of digits stand for. -/
def bytesOfDigits? : List Char → Option (List UInt8)
  | [] => some []
  | [_] => none
  | a :: b :: rest => do
    let high ← hexValue? a
    let low ← hexValue? b
    let bytes ← bytesOfDigits? rest
    return (high * 16 + low).toUInt8 :: bytes

/-- The bytes that a text of digits stands for. -/
def bytesOfHex? (s : String) : Option ByteArray :=
  (bytesOfDigits? s.toList).map fun bytes => ⟨bytes.toArray⟩

end Provision.Text

/-! A text that comes as bytes need not be valid UTF-8. It is read as a list of symbols:
characters, and stray bytes that belong to no character. A text in characters is the case
without stray bytes. -/

set_option autoImplicit false

namespace Provision.Text

inductive Symbol where
  | char (c : Char)
  | stray (byte : UInt8)
deriving DecidableEq, Repr

namespace Symbol

/-- The character, unless it is a stray byte. -/
def char? : Symbol → Option Char
  | .char c => some c
  | .stray _ => none

/-- Whether the symbol is a character that satisfies `p`. -/
def isChar (p : Char → Bool) : Symbol → Bool
  | .char c => p c
  | .stray _ => false

def ofString (s : String) : List Symbol :=
  s.toList.map .char

/-- The symbols of a text in bytes from a position on. Where no character starts, one
byte is stray. -/
def ofBytesFrom (bytes : ByteArray) (i : Nat) : List Symbol :=
  if h : i < bytes.size then
    match bytes.utf8DecodeChar? i with
    | some c =>
      have : bytes.size - (i + c.utf8Size) < bytes.size - i := by
        have := c.utf8Size_pos
        omega
      .char c :: ofBytesFrom bytes (i + c.utf8Size)
    | none => .stray bytes[i] :: ofBytesFrom bytes (i + 1)
  else []
termination_by bytes.size - i

def ofBytes (bytes : ByteArray) : List Symbol :=
  ofBytesFrom bytes 0

end Symbol

end Provision.Text

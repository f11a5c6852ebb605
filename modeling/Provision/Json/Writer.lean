import Provision.Float64.Shortest
import Provision.Json.Value
import Provision.Text.Numeral

/-! The compact text of a JSON value: no spaces, members in their order, and only those
characters escaped that have to be. -/

set_option autoImplicit false

namespace Provision.Json

/-- One character inside a JSON string. -/
def escaped (c : Char) : List Char :=
  match c with
  | '"' => ['\\', '"']
  | '\\' => ['\\', '\\']
  | '\x08' => ['\\', 'b']
  | '\x0c' => ['\\', 'f']
  | '\n' => ['\\', 'n']
  | '\r' => ['\\', 'r']
  | '\t' => ['\\', 't']
  | _ =>
    if c.toNat < 0x10 then ['\\', 'u', '0', '0', '0'] ++ Text.hexDigits c.toNat
    else if c.toNat < 0x20 then ['\\', 'u', '0', '0'] ++ Text.hexDigits c.toNat
    else [c]

/-- A JSON string with its quotes. -/
def stringText (s : String) : String :=
  String.ofList ('"' :: s.toList.flatMap escaped ++ ['"'])

/-- Floating-point numbers have the fewest digits that read back. They are positional
from 10^-5 up to but not including 10^16 and scientific elsewhere; of two equally near
ones the even one is written. Numbers that are not finite have no JSON form and become
`null`. -/
def floatText : Float64 → String
  | .finite negative mantissa exponent =>
    if mantissa = 0 then Float64.signText negative ++ "0.0"
    else
      let decimal := Float64.shortest .even mantissa exponent
      let magnitude :=
        if -5 ≤ decimal.order ∧ decimal.order < 16 then decimal.positional
        else decimal.scientific
      Float64.signText negative ++ magnitude
  | .infinite _ => "null"
  | .nan => "null"

def Number.text : Number → String
  | .integer value => toString value
  | .float value => floatText value

mutual

/-- The compact text of a value. -/
def Value.text : Value → String
  | .null => "null"
  | .bool true => "true"
  | .bool false => "false"
  | .number value => value.text
  | .string value => stringText value
  | .array items => "[" ++ String.intercalate "," (itemTexts items) ++ "]"
  | .object members => "\x7b" ++ String.intercalate "," (memberTexts members) ++ "\x7d"

/-- The texts of the items of an array. -/
def itemTexts : List Value → List String
  | [] => []
  | item :: rest => item.text :: itemTexts rest

/-- The texts of the members of an object. -/
def memberTexts : List (String × Value) → List String
  | [] => []
  | (key, value) :: rest => (stringText key ++ ":" ++ value.text) :: memberTexts rest

end

end Provision.Json

import Provision.Float64.Shortest
import Provision.Toml.Datetime

/-! The tree that a TOML document stands for, and the plain text of its scalars. The
reader builds tables whose keys ascend. -/

set_option autoImplicit false

namespace Provision.Toml

/-- A scalar. A numeral is what passes for a number in a document without denoting one:
the document is well-formed, but the numeral has no value. -/
inductive Scalar where
  | string (value : String)
  | integer (value : Int)
  | float (value : Float64)
  | bool (value : Bool)
  | datetime (value : Datetime)
  | numeral (characters : String)
deriving DecidableEq, Repr

inductive Value where
  | scalar (value : Scalar)
  | array (items : List Value)
  | table (members : List (String × Value))

/-- Floating-point numbers have the fewest digits that read back, the upper ones of
two equally near ones. They are always positional and always have a point. -/
def floatText : Float64 → String
  | .finite negative mantissa exponent =>
    Float64.signText negative ++
      if mantissa = 0 then "0.0" else (Float64.shortest .upper mantissa exponent).positional
  | .infinite negative => Float64.signText negative ++ "inf"
  | .nan => "nan"

/-- The text of a scalar: a string stands for itself, without quotes. -/
def Scalar.text : Scalar → String
  | .string value => value
  | .integer value => toString value
  | .float value => floatText value
  | .bool true => "true"
  | .bool false => "false"
  | .datetime value => value.text
  | .numeral characters => characters

/-- Whether a scalar has a value, which has to satisfy `fits` if it is an integer. -/
def Scalar.isReadable (fits : Int → Bool) : Scalar → Bool
  | .integer value => fits value
  | .numeral _ => false
  | _ => true

mutual

/-- Whether every scalar anywhere in a value is readable. -/
def Value.isReadable (fits : Int → Bool) : Value → Bool
  | .scalar value => value.isReadable fits
  | .array items => itemsReadable fits items
  | .table members => membersReadable fits members

def itemsReadable (fits : Int → Bool) : List Value → Bool
  | [] => true
  | item :: rest => item.isReadable fits && itemsReadable fits rest

def membersReadable (fits : Int → Bool) : List (String × Value) → Bool
  | [] => true
  | (_, value) :: rest => value.isReadable fits && membersReadable fits rest

end

/-- The key under which a table wraps the text of a date or time. -/
def wrapperKey : String := "$__toml_private_datetime"

/-- The date or time that the value under the wrapper key describes. -/
def Value.wrapped? : Value → Option Datetime
  | .scalar (.string text) => Datetime.ofChars? text.toList
  | _ => none

mutual

/-- The value with readable scalars, of which integers have 64 bits, and with dates and
times taken out of the tables that wrap them. A table wraps a date or time if the wrapper
key comes first in it; the other members are then of no account. -/
def Value.unwrapped? : Value → Option Value
  | .scalar value =>
    if value.isReadable (Word.fitsSigned 64) then some (.scalar value) else none
  | .array items => (unwrappedItems? items).map .array
  | .table members =>
    match members with
    | [] => some (.table [])
    | (key, value) :: rest =>
      if key = wrapperKey then value.wrapped?.map fun datetime => .scalar (.datetime datetime)
      else do
        let value ← value.unwrapped?
        return .table ((key, value) :: (← unwrappedMembers? rest))

def unwrappedItems? : List Value → Option (List Value)
  | [] => some []
  | item :: rest => do
    let item ← item.unwrapped?
    return item :: (← unwrappedItems? rest)

/-- The members of a table that wraps nothing. -/
def unwrappedMembers? : List (String × Value) → Option (List (String × Value))
  | [] => some []
  | (key, value) :: rest => do
    let value ← value.unwrapped?
    return (key, value) :: (← unwrappedMembers? rest)

end

end Provision.Toml

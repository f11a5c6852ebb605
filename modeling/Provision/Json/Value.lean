import Provision.Float64.Basic
import Provision.Keyed

/-! The values that a JSON text stands for. A number keeps whether it is a whole number of
64 bits or a floating-point one, and an object lists its members. The reader builds
objects whose keys ascend. -/

set_option autoImplicit false

namespace Provision.Json

/-- A whole number from -2^63 up to but not including 2^64, or a floating-point number. -/
inductive Number where
  | integer (value : Int)
  | float (value : Float64)
deriving DecidableEq, Repr

inductive Value where
  | null
  | bool (value : Bool)
  | number (value : Number)
  | string (value : String)
  | array (items : List Value)
  | object (members : List (String × Value))

end Provision.Json

import Provision.Json.Reader

/-! Reading a text directly as a value of some type. Parts that the type has no use for
are only checked against the grammar, so they may hold numbers and strings that stand for
nothing, stray bytes included. A record is read from an object that has each of its fields
once, or from an array that lists them in order. -/

set_option autoImplicit false

namespace Provision.Json

/-- A way to read terms as values of a type. -/
abbrev Decoder (α : Type) := Term → Option α

namespace Decoder

def string : Decoder String
  | .string pieces => text? pieces
  | _ => none

def bool : Decoder Bool
  | .bool value => some value
  | _ => none

/-- A whole number from `low` to `high`. A number with a point or an exponent is
not a whole number, whatever its value. -/
def integer (low high : Int) : Decoder Int
  | .number numeral =>
    match numeral.number? with
    | some (.integer value) => if low ≤ value ∧ value ≤ high then some value else none
    | _ => none
  | _ => none

/-- A floating-point number; a whole number becomes the one nearest to it. -/
def float : Decoder Float64
  | .number numeral => numeral.number?.map fun
    | .integer value => Float64.ofInt value
    | .float value => value
  | _ => none

/-- An array of values of one type. -/
def list {α : Type} (item : Decoder α) : Decoder (List α)
  | .array items => items.mapM item
  | _ => none

/-- Sets the members of an object one after the other; a repeated key takes its last value. -/
def setAll {α : Type} (value : Decoder α) :
    List (List Piece × Term) → List (String × α) → Option (List (String × α))
  | [], done => some done
  | (key, member) :: rest, done => do
    let key ← text? key
    let decoded ← value member
    setAll value rest (Keyed.set key decoded done)

/-- An object whose members have values of one type. -/
def map {α : Type} (value : Decoder α) : Decoder (List (String × α))
  | .object members => setAll value members []
  | _ => none

/-- The only member with a given key. -/
def onlyMember? (key : String) : List (String × Term) → Option Term
  | [] => none
  | (k, term) :: rest =>
    if k = key then if rest.any (·.1 = key) then none else some term
    else onlyMember? key rest

/-- The fields of a record in the order of their names. -/
def fields (names : List String) : Decoder (List Term)
  | .object members => do
    let keyed ← members.mapM fun (key, member) => (text? key).map (·, member)
    names.mapM (onlyMember? · keyed)
  | .array items => if items.length = names.length then some items else none
  | _ => none

/-- Any value. -/
def value : Decoder Value := Term.value? depthLimit

end Decoder

/-- The value of a type that a text stands for. -/
def decode? {α : Type} (decoder : Decoder α) (s : String) : Option α := do
  decoder (← Term.ofSymbols? (Text.Symbol.ofString s))

/-- The value of a type that a text in bytes stands for. -/
def decodeBytes? {α : Type} (decoder : Decoder α) (bytes : ByteArray) : Option α := do
  decoder (← Term.ofSymbols? (Text.Symbol.ofBytes bytes))

end Provision.Json

import Provision.Cache.Basic
import Provision.Configuration

/-! Values of a type are stored as their JSON text. A key is checked before the value is
encoded, and a value that cannot be encoded leaves the cache as it was. What is found is
decoded at the type that is asked for, which need not be the type that was stored. -/

set_option autoImplicit false

namespace Provision

/-- A way to write values of a type as bytes and to read them back. Either may fail. -/
structure Codec (ε α : Type) where
  encode : α → Except ε ByteArray
  decode : ByteArray → Except ε α

namespace Cache

variable {σ ε α : Type}

/-- Stores a value of a type and answers with it. -/
def store (cache : Cache σ) (codec : Codec ε α) (key : String) (value : α)
    (ttl : Option Duration) (now : Instant) : CacheStep ε σ α := fun state =>
  if key = "" then (.error .emptyKey, state)
  else
    match codec.encode value with
    | .error error => (.error (.serialization error), state)
    | .ok bytes =>
      let (answer, state) := cache.storeRaw key bytes ttl now state
      ((answer.mapError .widen).map fun _ => value, state)

/-- The value under a key, decoded at a type. -/
def retrieve (cache : Cache σ) (codec : Codec ε α) (key : String) (now : Instant) :
    CacheStep ε σ (Option α) := fun state =>
  match cache.retrieveRaw key now state with
  | (.error error, state) => (.error error.widen, state)
  | (.ok none, state) => (.ok none, state)
  | (.ok (some bytes), state) =>
    match codec.decode bytes with
    | .error error => (.error (.serialization error), state)
    | .ok value => (.ok (some value), state)

end Cache

/-- Why a value is not converted to JSON text or back: it has no JSON form, or the bytes are
not the JSON text of a value of the type. -/
inductive JsonConversionError where
  | unwritable
  | unreadable
deriving DecidableEq, Repr

/-- A way to write values of a type as JSON text and to read them back. -/
abbrev JsonCodec (α : Type) := Codec JsonConversionError α

namespace JsonCodec

/-- Values of a type as JSON text, given how they are written and read. -/
def of {α : Type} (write : α → String) (read : Json.Decoder α) : JsonCodec α where
  encode value := .ok (write value).toUTF8
  decode bytes := ((Json.decodeBytes? read bytes).map .ok).getD (.error .unreadable)

def value : JsonCodec Json.Value := of Json.Value.text Json.Decoder.value

def string : JsonCodec String := of Json.stringText Json.Decoder.string

def bool : JsonCodec Bool := of (fun b => Json.Value.text (.bool b)) Json.Decoder.bool

def integer (low high : Int) : JsonCodec Int := of toString (Json.Decoder.integer low high)

def strings : JsonCodec (List String) :=
  of (fun texts => Json.Value.text (.array (texts.map .string)))
    (Json.Decoder.list Json.Decoder.string)

/-- Bags as objects of strings. -/
def bag : JsonCodec Bag :=
  of Bag.jsonText fun term => (Json.Decoder.map Json.Decoder.string term).map Bag.ofList

/-- Floating-point numbers. The ones that are not finite are written as `null`, which
does not read back. -/
def float : JsonCodec Float64 := of Json.floatText Json.Decoder.float

/-- Maps with keys that JSON has no form for: none can be written. -/
def unwritable {α : Type} : JsonCodec α where
  encode _ := .error .unwritable
  decode _ := .error .unreadable

end JsonCodec

end Provision

import Provision.Bag.Basic
import Provision.Json.Decode
import Provision.Json.Writer
import Provision.Toml.Reader

/-! A tree of tables and arrays becomes a bag with one key for each scalar: the keys and
positions on the way to it, joined by points. Trees are walked in the order of their
members, so where two scalars meet in one key the later one counts. A JSON null leaves no
trace, nor do empty tables and arrays. -/

set_option autoImplicit false

namespace Provision

/-- Why a configuration does not give a bag. -/
inductive ConfigurationError where
  | malformedToml
  | notAnObject (found : Json.Value)
  | unreadable (path reason : String)

namespace ConfigurationError

/-- The description of an error; the grammar of a document explains itself. -/
def message : ConfigurationError → Option String
  | .malformedToml => none
  | .notAnObject found => some ("expected a JSON object at the top level, got " ++ found.text)
  | .unreadable path reason => some ("io error reading " ++ path ++ ": " ++ reason)

end ConfigurationError

namespace Json

mutual

/-- The pairs that a value under a key puts into a bag, in order. -/
def Value.pairs (key : String) : Value → List (String × String)
  | .null => []
  | .bool value => [(key, Value.text (.bool value))]
  | .number value => [(key, value.text)]
  | .string value => [(key, value)]
  | .array items => itemPairs key 0 items
  | .object members => memberPairs key members

/-- The pairs of the items of an array from a position on. -/
def itemPairs (key : String) (position : Nat) : List Value → List (String × String)
  | [] => []
  | item :: rest =>
    item.pairs (key ++ "." ++ toString position) ++ itemPairs key (position + 1) rest

/-- The pairs of the members of an object under a key. -/
def memberPairs (key : String) : List (String × Value) → List (String × String)
  | [] => []
  | (child, value) :: rest => value.pairs (key ++ "." ++ child) ++ memberPairs key rest

end

/-- The pairs of the members of the outermost object. -/
def topPairs (members : List (String × Value)) : List (String × String) :=
  members.flatMap fun (key, value) => value.pairs key

end Json

namespace Toml

mutual

/-- The pairs that a value under a key puts into a bag, in order. -/
def Value.pairs (key : String) : Value → List (String × String)
  | .scalar value => [(key, value.text)]
  | .array items => itemPairs key 0 items
  | .table members => memberPairs key members

/-- The pairs of the items of an array from a position on. -/
def itemPairs (key : String) (position : Nat) : List Value → List (String × String)
  | [] => []
  | item :: rest =>
    item.pairs (key ++ "." ++ toString position) ++ itemPairs key (position + 1) rest

/-- The pairs of the members of a table under a key. -/
def memberPairs (key : String) : List (String × Value) → List (String × String)
  | [] => []
  | (child, value) :: rest => value.pairs (key ++ "." ++ child) ++ memberPairs key rest

end

/-- The pairs of the members of a document. -/
def topPairs (members : List (String × Value)) : List (String × String) :=
  members.flatMap fun (key, value) => value.pairs key

/-- The members of a document that has readable scalars, without wrapped dates. The
document itself wraps nothing. -/
def document? (text : String) : Option (List (String × Value)) :=
  (readDocument? text).bind unwrappedMembers?

end Toml

namespace Bag

def ofJson : Json.Value → Except ConfigurationError Bag
  | .object members => .ok (ofList (Json.topPairs members))
  | other => .error (.notAnObject other)

/-- The bag of the members of a TOML document. -/
def ofToml (members : List (String × Toml.Value)) : Bag :=
  ofList (Toml.topPairs members)

def ofTomlText (text : String) : Except ConfigurationError Bag :=
  match Toml.document? text with
  | none => .error .malformedToml
  | some members => .ok (ofToml members)

/-- What reading a file gives: its bytes, or the reason why it cannot be read. -/
abbrev FileContent := Except String ByteArray

/-- The bag of a TOML file at a path. Its bytes must be valid UTF-8. -/
def ofTomlFile (path : String) (content : FileContent) : Except ConfigurationError Bag :=
  match content with
  | .error reason => .error (.unreadable path reason)
  | .ok bytes =>
    match String.fromUTF8? bytes with
    | none => .error (.unreadable path "stream did not contain valid UTF-8")
    | some text => ofTomlText text

/-- A bag from a JSON object of strings. -/
def ofStringMap? (text : String) : Option Bag :=
  (Json.decode? (Json.Decoder.map Json.Decoder.string) text).map ofList

/-- A bag as the text of a JSON object of strings. -/
def jsonText (bag : Bag) : String :=
  Json.Value.text (.object (bag.toList.map fun (key, value) => (key, .string value)))

end Bag

end Provision

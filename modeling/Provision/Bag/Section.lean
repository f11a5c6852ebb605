import Provision.Bag.Basic
import Provision.Text.Cut
import Provision.Text.Numeral

/-! A key with points in it addresses nested sections: `connection.host` is the key `host`
of the section `connection`. Sections are found by their names, listed, and copied into a
bag. -/

set_option autoImplicit false

namespace Provision.Bag

/-- The key of a section that a full key addresses, if it addresses one. -/
def keyIn? (name key : String) : Option String :=
  Text.after? (name ++ ".") key

/-- The section of a name: the keys after the name and a point. -/
def sectionAt (bag : Bag) (name : String) : Bag :=
  ofList (bag.toList.filterMap fun (key, value) => (keyIn? name key).map (·, value))

/-- The full key of a key in a section; the section without a name is the bag itself. -/
def fullKey (name key : String) : String :=
  if name = "" then key else name ++ "." ++ key

/-- Copies a section into a bag; its values win over those that are there. -/
def addSection (bag : Bag) (name : String) (added : Bag) : Bag :=
  bag.putAll (added.toList.map fun (key, value) => (fullKey name key, value))

/-- The section that a key belongs to: what stands before its first point, unless
that is empty. -/
def sectionOf? (key : String) : Option String :=
  match Text.cutFirst (· == '.') key.toList with
  | (name, some _) => if name.isEmpty then none else some (String.ofList name)
  | (_, none) => none

/-- Whether one section name is listed no later than another one: numbers come
first, by value and then by their characters, and then all other names. -/
def namePrecedes (a b : String) : Bool :=
  match Text.unsigned64? a, Text.unsigned64? b with
  | some m, some n => m < n || (m == n && decide (a ≤ b))
  | some _, none => true
  | none, some _ => false
  | none, none => decide (a ≤ b)

/-- The names of the sections of a bag, each once. -/
def sectionNames (bag : Bag) : List String :=
  (bag.keys.filterMap sectionOf?).eraseDups.mergeSort namePrecedes

end Provision.Bag

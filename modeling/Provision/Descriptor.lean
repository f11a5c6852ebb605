import Provision.Text.Cut
import Provision.Text.Quoted

/-! A component is described by five fields, and a locator is a description in which a
field may be left open with a star. Fields match if they are equal or if either of them is
open, so matching is the same in both directions; it is not transitive. -/

set_option autoImplicit false

namespace Provision

structure Descriptor where
  group : String
  capability : String
  kind : String
  name : String
  version : String
deriving DecidableEq, Repr

/-- A text that is not a descriptor. -/
inductive DescriptorError where
  | invalidFormat (text : String)
deriving DecidableEq, Repr

def DescriptorError.message : DescriptorError → String
  | .invalidFormat text => "descriptor '" ++ text ++ "' must have 5 ':'-separated parts"

namespace Descriptor

/-- The field that is open to any value. -/
def wildcard : String := "*"

/-- Whether two fields are equal or either of them is open. -/
def fieldMatches (a b : String) : Bool :=
  a == wildcard || b == wildcard || a == b

/-- Whether two descriptors match in every field. -/
def matches? (a b : Descriptor) : Bool :=
  fieldMatches a.group b.group && fieldMatches a.capability b.capability &&
    fieldMatches a.kind b.kind && fieldMatches a.name b.name &&
    fieldMatches a.version b.version

/-- A field unless it is open. -/
def closed? (field : String) : Option String :=
  if field = wildcard then none else some field

def fields (d : Descriptor) : List String :=
  [d.group, d.capability, d.kind, d.name, d.version]

/-- The descriptor with five given fields. -/
def ofFields? : List String → Option Descriptor
  | [group, capability, kind, name, version] => some ⟨group, capability, kind, name, version⟩
  | _ => none

/-- The fields with colons between them. -/
def text (d : Descriptor) : String :=
  Text.joined ':' d.fields

/-- Reads a descriptor from its fields with colons between them. -/
def ofText (s : String) : Except DescriptorError Descriptor :=
  match ofFields? (Text.pieces ':' s) with
  | some d => .ok d
  | none => .error (.invalidFormat s)

/-- The description of a descriptor with the names of its fields. -/
def debugText (d : Descriptor) : String :=
  "Descriptor \x7b group: " ++ Text.quoted d.group ++ ", capability: " ++
    Text.quoted d.capability ++ ", kind: " ++ Text.quoted d.kind ++ ", name: " ++
    Text.quoted d.name ++ ", version: " ++ Text.quoted d.version ++ " \x7d"

/-- The description of a list of descriptors. -/
def debugList (ds : List Descriptor) : String :=
  "[" ++ String.intercalate ", " (ds.map debugText) ++ "]"

end Descriptor

end Provision

import Provision.Descriptor

/-! Components of several types, each put in under a descriptor and found again by a
locator and a type. The types are the members of a family: a component carries the index
of its type, and a look-up asks for one index. -/

set_option autoImplicit false

namespace Provision

/-- A component with the index of its type and the descriptor it was put in under. -/
structure Reference {ι : Type} (Component : ι → Type) where
  descriptor : Descriptor
  type : ι
  component : Component type

namespace Reference

variable {ι : Type} [DecidableEq ι] {Component : ι → Type}

/-- The component, if its type has the given index. -/
def as? (reference : Reference Component) (type : ι) : Option (Component type) :=
  if same : reference.type = type then some (same ▸ reference.component) else none

end Reference

/-- Components in the order in which they were put in. -/
structure References {ι : Type} (Component : ι → Type) where
  entries : List (Reference Component)

namespace References

variable {ι : Type} {Component : ι → Type}

def empty : References Component := ⟨[]⟩

/-- Puts in a component under a descriptor. -/
def put (references : References Component) (descriptor : Descriptor) (type : ι)
    (component : Component type) : References Component :=
  ⟨references.entries ++ [⟨descriptor, type, component⟩]⟩

/-- Puts in a provider under a descriptor. The type is the one that the family has for
providers of its kind. -/
def putProvider {κ : Type} (providerType : κ → ι) (references : References Component)
    (descriptor : Descriptor) (kind : κ) (provider : Component (providerType kind)) :
    References Component :=
  references.put descriptor (providerType kind) provider

/-- The components of one type whose descriptors match a locator, in order. -/
def getOptional [DecidableEq ι] (references : References Component) (type : ι)
    (locator : Descriptor) : List (Component type) :=
  (references.entries.filter fun entry => locator.matches? entry.descriptor).filterMap
    fun entry => entry.as? type

/-- Removes the components of any type whose descriptors match a locator, and says
how many there were. -/
def removeAll (references : References Component) (locator : Descriptor) :
    Nat × References Component :=
  (references.entries.countP fun entry => locator.matches? entry.descriptor,
    ⟨references.entries.filter fun entry => !locator.matches? entry.descriptor⟩)

/-- The descriptors of all components, in order. -/
def descriptors (references : References Component) : List Descriptor :=
  references.entries.map Reference.descriptor

def size (references : References Component) : Nat :=
  references.entries.length

def isEmpty (references : References Component) : Bool :=
  references.entries.isEmpty

def debugText (references : References Component) : String :=
  Descriptor.debugList references.descriptors

end References

end Provision

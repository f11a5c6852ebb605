import Provision.Descriptor

/-! Constructors registered under descriptors. A locator selects the earliest matching
registration. A constructor is an action on the state it may depend on, and creating a
component runs the selected constructor once and no other one. -/

set_option autoImplicit false

namespace Provision

/-- No registration matches a locator. -/
inductive FactoryError where
  | notRegistered (locator : Descriptor)
deriving DecidableEq, Repr

def FactoryError.message : FactoryError → String
  | .notRegistered locator => "no constructor registered for " ++ locator.text

/-- Constructors of components of type `α`, which run on a state of type `σ`. -/
structure Factory (σ α : Type) where
  registrations : List (Descriptor × StateM σ α)

namespace Factory

variable {σ α : Type}

def empty : Factory σ α := ⟨[]⟩

/-- Adds a registration after the earlier ones. -/
def register (factory : Factory σ α) (descriptor : Descriptor) (constructor : StateM σ α) :
    Factory σ α :=
  ⟨factory.registrations ++ [(descriptor, constructor)]⟩

/-- The earliest registration that matches a locator. -/
def find? (factory : Factory σ α) (locator : Descriptor) : Option (Descriptor × StateM σ α) :=
  factory.registrations.find? fun registration => locator.matches? registration.1

/-- The descriptor of the registration that a locator selects. -/
def canCreate (factory : Factory σ α) (locator : Descriptor) : Option Descriptor :=
  (factory.find? locator).map Prod.fst

/-- Runs the constructor that a locator selects. -/
def create (factory : Factory σ α) (locator : Descriptor) : ExceptT FactoryError (StateM σ) α :=
  match factory.find? locator with
  | none => throw (.notRegistered locator)
  | some (_, constructor) => ExceptT.lift constructor

/-- The descriptors of all registrations, in order. -/
def descriptors (factory : Factory σ α) : List Descriptor :=
  factory.registrations.map Prod.fst

def debugText (factory : Factory σ α) : String :=
  Descriptor.debugList factory.descriptors

end Factory

end Provision

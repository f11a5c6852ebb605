import Provision.Descriptor

/-! Matching descriptors, field by field. A star on either side leaves a field open, so
that a locator without any star is also matched by descriptors that have one. Matching
is reflexive and symmetric. It is not transitive: any two descriptors match one that is
open in every field. -/

set_option autoImplicit false

namespace Provision.Descriptor

variable {a b : String} {first second : Descriptor}

def FieldsMatch (a b : String) : Prop :=
  a = "*" ∨ b = "*" ∨ a = b

structure Matches (first second : Descriptor) : Prop where
  group : FieldsMatch first.group second.group
  capability : FieldsMatch first.capability second.capability
  kind : FieldsMatch first.kind second.kind
  name : FieldsMatch first.name second.name
  version : FieldsMatch first.version second.version

theorem FieldsMatch.refl (a : String) : FieldsMatch a a := .inr (.inr rfl)

theorem FieldsMatch.symm (fits : FieldsMatch a b) : FieldsMatch b a := by
  obtain left | right | same := fits
  · exact .inr (.inl left)
  · exact .inl right
  · exact .inr (.inr same.symm)

theorem FieldsMatch.eq (fits : FieldsMatch a b) (closed : a ≠ "*") (otherClosed : b ≠ "*") :
    a = b := by
  obtain left | right | same := fits
  · exact absurd left closed
  · exact absurd right otherClosed
  · exact same

theorem Matches.refl (descriptor : Descriptor) : descriptor.Matches descriptor :=
  ⟨.refl _, .refl _, .refl _, .refl _, .refl _⟩

theorem Matches.symm (fits : first.Matches second) : second.Matches first :=
  ⟨fits.group.symm, fits.capability.symm, fits.kind.symm, fits.name.symm, fits.version.symm⟩

theorem fieldMatches_iff : fieldMatches a b = true ↔ FieldsMatch a b := by
  simp [fieldMatches, wildcard, FieldsMatch, or_assoc]

theorem matches?_iff :
    first.matches? second = true ↔ first.Matches second := by
  simp only [matches?, Bool.and_eq_true, fieldMatches_iff]
  constructor
  · rintro ⟨⟨⟨⟨group, capability⟩, kind⟩, name⟩, version⟩
    exact ⟨group, capability, kind, name, version⟩
  · rintro ⟨group, capability, kind, name, version⟩
    exact ⟨⟨⟨⟨group, capability⟩, kind⟩, name⟩, version⟩

instance (first second : Descriptor) : Decidable (first.Matches second) :=
  decidable_of_iff _ matches?_iff

theorem matches?_eq_decide (first second : Descriptor) :
    first.matches? second = decide (first.Matches second) := by
  rw [Bool.eq_iff_iff, decide_eq_true_iff, matches?_iff]

end Provision.Descriptor

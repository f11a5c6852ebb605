import Mathlib.Data.List.Basic
import Provision.Proofs.Factory.Selection
import Provision.References

/-! Locators with more fields left open. Matching is not transitive, so this cannot rest
on the two locators matching each other: an open field of a locator matches what its
closed one matched, whether that entry is open there or not. Field by field, the wider
locator matches whatever the narrow one did. -/

set_option autoImplicit false

namespace Provision.Descriptor

inductive Field
  | group | capability | kind | name | version

/-- A locator with some of its fields replaced by a star. -/
def opened (opens : Field → Bool) (locator : Descriptor) : Descriptor where
  group := if opens .group then "*" else locator.group
  capability := if opens .capability then "*" else locator.capability
  kind := if opens .kind then "*" else locator.kind
  name := if opens .name then "*" else locator.name
  version := if opens .version then "*" else locator.version

/-- No field is open. -/
def IsClosed (descriptor : Descriptor) : Prop :=
  ∀ field ∈ descriptor.fields, field ≠ "*"

variable {first second : Descriptor}

theorem FieldsMatch.opened {a b : String} (fits : FieldsMatch a b) (opens : Bool) :
    FieldsMatch (if opens then "*" else a) b := by
  cases opens with
  | false => exact fits
  | true => exact .inl rfl

theorem Matches.opened (fits : first.Matches second) (opens : Field → Bool) :
    (first.opened opens).Matches second :=
  ⟨fits.group.opened _, fits.capability.opened _, fits.kind.opened _, fits.name.opened _,
    fits.version.opened _⟩

theorem matches?_opened (opens : Field → Bool) (fits : first.matches? second = true) :
    (first.opened opens).matches? second = true :=
  matches?_iff.mpr ((matches?_iff.mp fits).opened opens)

theorem IsClosed.matches_iff (closed : first.IsClosed) (otherClosed : second.IsClosed) :
    first.Matches second ↔ first = second := by
  obtain ⟨group, capability, kind, name, version⟩ := first
  obtain ⟨group', capability', kind', name', version'⟩ := second
  simp only [IsClosed, fields, List.forall_mem_cons] at closed otherClosed
  obtain ⟨g, c, k, n, v, -⟩ := closed
  obtain ⟨g', c', k', n', v', -⟩ := otherClosed
  constructor
  · intro fits
    rw [mk.injEq]
    exact ⟨fits.group.eq g g', fits.capability.eq c c', fits.kind.eq k k', fits.name.eq n n',
      fits.version.eq v v'⟩
  · intro same
    cases same
    exact .refl _

end Provision.Descriptor

namespace Provision.References

variable {ι : Type} {Component : ι → Type}

theorem getOptional_sublist_opened [DecidableEq ι] (references : References Component) (type : ι)
    (locator : Descriptor) (opens : Descriptor.Field → Bool) :
    (references.getOptional type locator).Sublist
      (references.getOptional type (locator.opened opens)) := by
  refine List.Sublist.filterMap _ (List.monotone_filter_right _ ?_)
  intro entry fits
  exact Descriptor.matches?_opened opens fits

theorem removeAll_opened_sublist (references : References Component) (locator : Descriptor)
    (opens : Descriptor.Field → Bool) :
    (references.removeAll (locator.opened opens)).2.entries.Sublist
      (references.removeAll locator).2.entries := by
  refine List.monotone_filter_right _ ?_
  intro entry kept
  rw [Bool.not_eq_true', Bool.eq_false_iff] at kept ⊢
  exact fun fits => kept (Descriptor.matches?_opened opens fits)

theorem removeAll_opened_count (references : References Component) (locator : Descriptor)
    (opens : Descriptor.Field → Bool) :
    (references.removeAll locator).1 ≤ (references.removeAll (locator.opened opens)).1 := by
  refine List.countP_mono_left ?_
  intro entry _ fits
  exact Descriptor.matches?_opened opens fits

/-- After the wider removal the narrow one has nothing left to remove. -/
theorem removeAll_after_opened (references : References Component) (locator : Descriptor)
    (opens : Descriptor.Field → Bool) :
    (references.removeAll (locator.opened opens)).2.removeAll locator =
      (0, (references.removeAll (locator.opened opens)).2) := by
  have missed : ∀ entry ∈ (references.removeAll (locator.opened opens)).2.entries,
      ¬ locator.matches? entry.descriptor = true := by
    intro entry held fits
    have kept := (List.mem_filter.mp held).2
    rw [Descriptor.matches?_opened opens fits] at kept
    cases kept
  refine Prod.ext (List.countP_eq_zero.mpr missed) ?_
  refine congrArg References.mk (List.filter_eq_self.mpr ?_)
  intro entry held
  rw [Bool.not_eq_true', Bool.eq_false_iff]
  exact missed entry held

end Provision.References

namespace Provision.Factory

variable {σ α : Type} {registrations : List (Descriptor × StateM σ α)} {locator : Descriptor}
  {place : Nat} {registration : Descriptor × StateM σ α}

theorem Earliest.opened (earliest : Earliest locator registrations place registration)
    (opens : Descriptor.Field → Bool) :
    ∃ first selected, first ≤ place ∧
      Earliest (locator.opened opens) registrations first selected :=
  exists_earliest_le earliest.listed (earliest.matched.opened opens)

end Provision.Factory

namespace Provision.Descriptor

/-- What a locator with more open fields finds, beside what the narrow one does. -/
structure WideningLaws {ι σ α : Type} [DecidableEq ι] {Component : ι → Type}
    (references : References Component) (factory : Factory σ α) (locator : Descriptor)
    (opens : Field → Bool) : Prop where
  found : ∀ type, (references.getOptional type locator).Sublist
    (references.getOptional type (locator.opened opens))
  removed : ∀ entry ∈ references.entries,
    entry ∉ (references.removeAll locator).2.entries →
      entry ∉ (references.removeAll (locator.opened opens)).2.entries
  left : (references.removeAll (locator.opened opens)).2.entries.Sublist
    (references.removeAll locator).2.entries
  count : (references.removeAll locator).1 ≤ (references.removeAll (locator.opened opens)).1
  exhausted : (references.removeAll (locator.opened opens)).2.removeAll locator =
    (0, (references.removeAll (locator.opened opens)).2)
  selects : ∀ descriptor, factory.canCreate locator = some descriptor →
    ∃ place registration first selected,
      Factory.Earliest locator factory.registrations place registration ∧
      registration.1 = descriptor ∧ first ≤ place ∧
      Factory.Earliest (locator.opened opens) factory.registrations first selected ∧
      factory.canCreate (locator.opened opens) = some selected.1
  reflexive : ∀ descriptor : Descriptor, descriptor.matches? descriptor = true
  symmetric : ∀ one other : Descriptor, one.matches? other = other.matches? one
  equality : ∀ one other : Descriptor, one.IsClosed → other.IsClosed →
    (one.matches? other = true ↔ one = other)

theorem wideningLaws {ι σ α : Type} [DecidableEq ι] {Component : ι → Type}
    (references : References Component) (factory : Factory σ α) (locator : Descriptor)
    (opens : Field → Bool) : WideningLaws references factory locator opens := by
  constructor
  case found => exact fun type => references.getOptional_sublist_opened type locator opens
  case left => exact references.removeAll_opened_sublist locator opens
  case removed =>
    intro entry _ gone held
    exact gone ((references.removeAll_opened_sublist locator opens).subset held)
  case count => exact references.removeAll_opened_count locator opens
  case exhausted => exact references.removeAll_after_opened locator opens
  case selects =>
    intro descriptor answer
    obtain ⟨place, registration, earliest, named⟩ := Factory.canCreate_eq_some_iff.mp answer
    obtain ⟨first, selected, before, wider⟩ := earliest.opened opens
    exact ⟨place, registration, first, selected, earliest, named, before, wider,
      Factory.canCreate_eq_some_iff.mpr ⟨first, selected, wider, rfl⟩⟩
  case reflexive => exact fun descriptor => matches?_iff.mpr (.refl descriptor)
  case symmetric =>
    intro one other
    rw [Bool.eq_iff_iff, matches?_iff, matches?_iff]
    exact ⟨Matches.symm, Matches.symm⟩
  case equality =>
    intro one other closed otherClosed
    rw [matches?_iff]
    exact closed.matches_iff otherClosed

end Provision.Descriptor

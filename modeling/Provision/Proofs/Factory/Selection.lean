import Provision.Factory
import Provision.Proofs.References.Matching

/-! The registration that a locator selects: the earliest one that it matches. What is
registered later stands behind it and is not looked at, however well it fits. -/

set_option autoImplicit false

namespace Provision.Factory

variable {σ α : Type}

/-- A registration that matches, with none before it that does. -/
structure Earliest (locator : Descriptor) (registrations : List (Descriptor × StateM σ α))
    (place : Nat) (registration : Descriptor × StateM σ α) : Prop where
  listed : registrations[place]? = some registration
  matched : locator.Matches registration.1
  passed : ∀ earlier < place, ∀ other : Descriptor × StateM σ α,
    registrations[earlier]? = some other → ¬ locator.Matches other.1

def Misses (locator : Descriptor) (registrations : List (Descriptor × StateM σ α)) : Prop :=
  ∀ registration ∈ registrations, ¬ locator.Matches registration.1

variable {factory : Factory σ α} {registrations : List (Descriptor × StateM σ α)}
  {locator : Descriptor} {place : Nat} {registration : Descriptor × StateM σ α}

theorem find?_eq_some_iff :
    factory.find? locator = some registration ↔
      ∃ place, Earliest locator factory.registrations place registration := by
  rw [find?, List.find?_eq_some_iff_getElem]
  constructor
  · intro ⟨matched, place, inside, listed, passed⟩
    refine ⟨place, List.getElem?_eq_some_iff.mpr ⟨inside, listed⟩,
      Descriptor.matches?_iff.mp matched, ?_⟩
    intro earlier before other found
    obtain ⟨_, rfl⟩ := List.getElem?_eq_some_iff.mp found
    simpa [Descriptor.matches?_eq_decide] using passed earlier before
  · intro ⟨place, earliest⟩
    obtain ⟨inside, listed⟩ := List.getElem?_eq_some_iff.mp earliest.listed
    refine ⟨Descriptor.matches?_iff.mpr earliest.matched, place, inside, listed, ?_⟩
    intro earlier before
    have held := List.getElem?_eq_getElem (Nat.lt_trans before inside)
    have missed := earliest.passed earlier before _ held
    simpa [Descriptor.matches?_eq_decide] using missed

theorem find?_eq_none_iff :
    factory.find? locator = none ↔ Misses locator factory.registrations := by
  simp [find?, List.find?_eq_none, Misses, Descriptor.matches?_iff]

theorem Earliest.find? (earliest : Earliest locator registrations place registration) :
    (Factory.mk registrations).find? locator = some registration :=
  find?_eq_some_iff.mpr ⟨place, earliest⟩

theorem canCreate_eq_some_iff {descriptor : Descriptor} :
    factory.canCreate locator = some descriptor ↔
      ∃ place registration, Earliest locator factory.registrations place registration ∧
        registration.1 = descriptor := by
  rw [canCreate, Option.map_eq_some_iff]
  constructor
  · intro ⟨registration, found, named⟩
    obtain ⟨place, earliest⟩ := find?_eq_some_iff.mp found
    exact ⟨place, registration, earliest, named⟩
  · intro ⟨place, registration, earliest, named⟩
    exact ⟨registration, find?_eq_some_iff.mpr ⟨place, earliest⟩, named⟩

theorem canCreate_eq_none_iff :
    factory.canCreate locator = none ↔ Misses locator factory.registrations := by
  rw [canCreate, Option.map_eq_none_iff, find?_eq_none_iff]

theorem earliest_or_misses (locator : Descriptor)
    (registrations : List (Descriptor × StateM σ α)) :
    (∃ place registration, Earliest locator registrations place registration) ∨
      Misses locator registrations := by
  cases found : (Factory.mk registrations).find? locator with
  | none => exact .inr (find?_eq_none_iff.mp found)
  | some registration =>
    obtain ⟨place, earliest⟩ := find?_eq_some_iff.mp found
    exact .inl ⟨place, registration, earliest⟩

/-- A locator that matches some registration selects that one or an earlier one. -/
theorem exists_earliest_le (listed : registrations[place]? = some registration)
    (matched : locator.Matches registration.1) :
    ∃ first selected, first ≤ place ∧ Earliest locator registrations first selected := by
  cases earliest_or_misses locator registrations with
  | inl selects =>
    obtain ⟨first, selected, earliest⟩ := selects
    refine ⟨first, selected, ?_, earliest⟩
    refine Nat.le_of_not_lt fun before => ?_
    exact earliest.passed place before registration listed matched
  | inr misses => exact absurd matched (misses registration (List.mem_of_getElem? listed))

/-- What is registered later changes no selection. -/
theorem Earliest.append (earliest : Earliest locator registrations place registration)
    (later : List (Descriptor × StateM σ α)) :
    Earliest locator (registrations ++ later) place registration := by
  obtain ⟨inside, _⟩ := List.getElem?_eq_some_iff.mp earliest.listed
  refine ⟨?_, earliest.matched, ?_⟩
  · rw [List.getElem?_append_left inside]
    exact earliest.listed
  · intro earlier before other found
    rw [List.getElem?_append_left (Nat.lt_trans before inside)] at found
    exact earliest.passed earlier before other found

theorem create_of_earliest (earliest : Earliest locator registrations place registration)
    (state : σ) :
    (Factory.mk registrations).create locator state =
      (.ok (registration.2 state).1, (registration.2 state).2) := by
  simp only [create, earliest.find?]
  rfl

theorem create_of_misses (misses : Misses locator registrations) (state : σ) :
    (Factory.mk registrations).create locator state =
      (.error (.notRegistered locator), state) := by
  have nothing : (Factory.mk registrations).find? locator = none := find?_eq_none_iff.mpr misses
  simp only [create, nothing]
  rfl

end Provision.Factory

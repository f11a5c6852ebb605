import Provision.Proofs.References.Matching
import Provision.References

/-! What a set of references holds after any number of changes. A component that is put in
stays until the first removal whose locator matches its descriptor. Its place among the
others never changes, and nothing else is of account: not its type, nor what the set held
when it was put in. -/

set_option autoImplicit false

namespace Provision.References

section Changes

variable {ι κ : Type} {Component : ι → Type} {providerType : κ → ι}

inductive Change (Component : ι → Type) (providerType : κ → ι)
  | put (descriptor : Descriptor) (type : ι) (component : Component type)
  | putProvider (descriptor : Descriptor) (kind : κ) (provider : Component (providerType kind))
  | removeAll (locator : Descriptor)

def apply (references : References Component) : Change Component providerType → References Component
  | .put descriptor type component => references.put descriptor type component
  | .putProvider descriptor kind provider =>
    references.putProvider providerType descriptor kind provider
  | .removeAll locator => (references.removeAll locator).2

def after (changes : List (Change Component providerType)) : References Component :=
  changes.foldl apply empty

namespace Change

/-- What a change adds to the set. -/
def added : Change Component providerType → List (Reference Component)
  | .put descriptor type component => [⟨descriptor, type, component⟩]
  | .putProvider descriptor kind provider => [⟨descriptor, providerType kind, provider⟩]
  | .removeAll _ => []

/-- Whether a change removes what is held under a descriptor. -/
def Removes (descriptor : Descriptor) : Change Component providerType → Prop
  | .removeAll locator => locator.Matches descriptor
  | _ => False

instance (descriptor : Descriptor) :
    (change : Change Component providerType) → Decidable (change.Removes descriptor)
  | .put .. | .putProvider .. => .isFalse nofun
  | .removeAll locator => inferInstanceAs (Decidable (locator.Matches descriptor))

end Change

/-- No change removes what is held under a descriptor. -/
def Lasts (changes : List (Change Component providerType)) (descriptor : Descriptor) : Prop :=
  ∀ change ∈ changes, ¬ change.Removes descriptor

instance (changes : List (Change Component providerType)) (descriptor : Descriptor) :
    Decidable (Lasts changes descriptor) :=
  inferInstanceAs (Decidable (∀ change ∈ changes, _))

/-- What was put in and is not removed by a later change, in the order of the changes. -/
def standing : List (Change Component providerType) → List (Reference Component)
  | [] => []
  | change :: later =>
    (change.added.filter fun entry => Lasts later entry.descriptor) ++ standing later

theorem lasts_cons {change : Change Component providerType} {later : List _}
    {descriptor : Descriptor} :
    Lasts (change :: later) descriptor ↔ ¬ change.Removes descriptor ∧ Lasts later descriptor :=
  List.forall_mem_cons

theorem entries_apply (references : References Component) (change : Change Component providerType) :
    (references.apply change).entries =
      (references.entries.filter fun entry => ¬ change.Removes entry.descriptor) ++
        change.added := by
  cases change with
  | put descriptor type component =>
    rw [List.filter_eq_self.mpr]
    · rfl
    · simp [Change.Removes]
  | putProvider descriptor kind provider =>
    rw [List.filter_eq_self.mpr]
    · rfl
    · simp [Change.Removes]
  | removeAll locator =>
    rw [Change.added, List.append_nil]
    refine List.filter_congr ?_
    intro entry _
    rw [Bool.eq_iff_iff, decide_eq_true_iff, Change.Removes, ← Descriptor.matches?_iff,
      Bool.not_eq_true', Bool.not_eq_true]

/-- A set keeps what none of the changes removes, in front of what they leave standing. -/
theorem entries_foldl (references : References Component)
    (changes : List (Change Component providerType)) :
    (changes.foldl apply references).entries =
      (references.entries.filter fun entry => Lasts changes entry.descriptor) ++
        standing changes := by
  induction changes generalizing references with
  | nil =>
    rw [standing, List.append_nil, List.filter_eq_self.mpr]
    · rfl
    · simp [Lasts]
  | cons change later ih =>
    have kept : ((references.entries.filter fun entry => ¬ change.Removes entry.descriptor).filter
          fun entry => Lasts later entry.descriptor) =
        references.entries.filter fun entry => Lasts (change :: later) entry.descriptor := by
      rw [List.filter_filter]
      refine List.filter_congr ?_
      intro entry _
      simp [lasts_cons, and_comm]
    rw [List.foldl_cons, ih, entries_apply, List.filter_append, kept, standing,
      List.append_assoc]

theorem entries_after (changes : List (Change Component providerType)) :
    (after changes).entries = standing changes := by
  rw [after, entries_foldl]
  rfl

end Changes

section Lookup

variable {ι : Type} [DecidableEq ι] {Component : ι → Type}

def typed (entry : Reference Component) : Σ type, Component type :=
  ⟨entry.type, entry.component⟩

theorem map_as? (entry : Reference Component) (type : ι) :
    (entry.as? type).map (Sigma.mk type) =
      if entry.type = type then some (typed entry) else none := by
  obtain ⟨descriptor, own, component⟩ := entry
  by_cases same : own = type
  · cases same
    simp [Reference.as?, typed]
  · simp [Reference.as?, same]

theorem map_getOptional (references : References Component) (type : ι) (locator : Descriptor) :
    (references.getOptional type locator).map (Sigma.mk type) =
      (references.entries.filter fun entry =>
        entry.type = type ∧ locator.Matches entry.descriptor).map typed := by
  simp only [getOptional, List.map_filterMap, map_as?, Descriptor.matches?_eq_decide]
  induction references.entries with
  | nil => rfl
  | cons entry entries ih =>
    by_cases found : locator.Matches entry.descriptor <;> by_cases same : entry.type = type <;>
      simp [found, same, ih]

end Lookup

/-- What look-ups find and removals remove after the changes of a history. -/
structure HistoryLaws {ι κ : Type} [DecidableEq ι] {Component : ι → Type} {providerType : κ → ι}
    (changes : List (Change Component providerType)) : Prop where
  held : (after changes).entries = standing changes
  found : ∀ type locator, ((after changes).getOptional type locator).map (Sigma.mk type) =
    ((standing changes).filter fun entry =>
      entry.type = type ∧ locator.Matches entry.descriptor).map typed
  removed : ∀ locator, ((after changes).removeAll locator).1 =
    ((standing changes).filter fun entry => locator.Matches entry.descriptor).length
  left : ∀ locator, ((after changes).removeAll locator).2.entries =
    (standing changes).filter fun entry => ¬ locator.Matches entry.descriptor

theorem historyLaws {ι κ : Type} [DecidableEq ι] {Component : ι → Type} {providerType : κ → ι}
    (changes : List (Change Component providerType)) : HistoryLaws changes := by
  constructor
  case held => exact entries_after changes
  case found =>
    intro type locator
    rw [map_getOptional, entries_after]
  case removed =>
    intro locator
    simp only [removeAll, entries_after, List.countP_eq_length_filter,
      Descriptor.matches?_eq_decide]
  case left =>
    intro locator
    simp only [removeAll, entries_after, Descriptor.matches?_eq_decide, decide_not]

-- a removal for one kind of tug takes the tugs of any kind with it
example :
    let pilot : Descriptor := ⟨"harbour", "pilot", "*", "berth", "1.0"⟩
    let tug : Descriptor := ⟨"harbour", "tug", "*", "*", "1.0"⟩
    let changes : List (Change (fun _ : Bool => Nat) id) :=
      [.put pilot true 1, .put tug true 2, .put pilot false 3, .putProvider pilot true 1,
        .removeAll ⟨"*", "tug", "diesel", "aft", "1.0"⟩, .put tug true 5]
    (after changes).getOptional true ⟨"harbour", "*", "diesel", "*", "1.0"⟩ = [1, 1, 5] ∧
      ((after changes).removeAll ⟨"*", "pilot", "*", "*", "*"⟩).1 = 3 := by
  decide +kernel

end Provision.References

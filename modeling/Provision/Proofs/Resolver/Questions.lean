import Provision.Proofs.Provider.Turns
import Provision.Resolver

/-! The questions that a resolver has to ask, and the calls it is seen to make. A call
is told apart by the place of the reference through which it is made, so the same
provider under two references is called twice. To see the calls, every provider among
the references notes them beside the state. -/

set_option autoImplicit false

namespace Provision

/-- What a provider is asked to do. -/
inductive ProviderRequest where
  | register (correlation key : String) (bag : Bag)
  | resolveOne (correlation key : String)
  | resolveAll (correlation key : String)
deriving DecidableEq

/-- A call of the provider at a place among the references. -/
structure ReferenceCall where
  place : Nat
  request : ProviderRequest
deriving DecidableEq

variable {σ : Type} {kind : ParamsKind}

/-- The provider at a place, with notes of its calls. -/
def Provider.noted (place : Nat) (provider : Provider σ kind) :
    Provider (σ × List ReferenceCall) kind where
  register correlation key params :=
    (provider.register correlation key params).noted ⟨place, .register correlation key params.bag⟩
  resolveOne correlation key :=
    (provider.resolveOne correlation key).noted ⟨place, .resolveOne correlation key⟩
  resolveAll correlation key :=
    (provider.resolveAll correlation key).noted ⟨place, .resolveAll correlation key⟩

def Component.noted (place : Nat) : (type : ComponentType) → Component σ type →
    Component (σ × List ReferenceCall) type
  | .provider _, provider => Provider.noted place provider
  | .text, text => text

def Reference.noted (place : Nat) (reference : Reference (Component σ)) :
    Reference (Component (σ × List ReferenceCall)) :=
  ⟨reference.descriptor, reference.type, Component.noted place reference.type reference.component⟩

@[simp] theorem Reference.descriptor_noted (reference : Reference (Component σ)) (place : Nat) :
    (reference.noted place).descriptor = reference.descriptor := rfl

theorem Reference.as?_noted (reference : Reference (Component σ)) (place : Nat)
    (type : ComponentType) :
    (reference.noted place).as? type =
      (reference.as? type).map (Component.noted place type) := by
  unfold Reference.as? Reference.noted
  by_cases same : reference.type = type
  · subst same
    simp
  · simp [same]

/-- The resolver with references whose providers, of either kind, note their calls. -/
def Resolver.noted (resolver : Resolver σ kind) : Resolver (σ × List ReferenceCall) kind where
  items := resolver.items
  references := resolver.references.map fun references =>
    ⟨references.entries.zipIdx.map fun (reference, place) => reference.noted place⟩
  locator := resolver.locator

/-! ## Direct parameters -/

/-- Parameters with no value under the key of their kind, or an empty one. -/
def Params.IsDirect (params : Params kind) : Prop :=
  params.bag.get? kind.indirectionKey = none ∨ params.bag.get? kind.indirectionKey = some ""

instance (params : Params kind) : Decidable params.IsDirect :=
  inferInstanceAs (Decidable (_ ∨ _))

theorem Params.indirection?_eq_none_iff {params : Params kind} :
    params.indirection? = none ↔ params.IsDirect := by
  simp only [indirection?, Bag.nonEmpty?, IsDirect]
  cases params.bag.get? kind.indirectionKey <;> simp

theorem Params.isIndirect_eq {params : Params kind} :
    params.isIndirect = !decide params.IsDirect := by
  have direct : params.indirection? = none ↔ params.IsDirect := indirection?_eq_none_iff
  unfold isIndirect
  cases found : params.indirection? with
  | none => simp [direct.mp found]
  | some key =>
    have indirect : ¬ params.IsDirect := fun isDirect => by simp [direct.mpr isDirect] at found
    simp [indirect]

namespace Resolver

/-- None of the items is usable as it is. -/
def AllIndirect (resolver : Resolver σ kind) : Prop :=
  ∀ params ∈ resolver.items, ¬ params.IsDirect

theorem direct_eq_filter (resolver : Resolver σ kind) :
    resolver.direct = resolver.items.filter (·.IsDirect) := by
  simp [direct, Params.isIndirect_eq]

theorem direct_eq_nil_iff {resolver : Resolver σ kind} :
    resolver.direct = [] ↔ resolver.AllIndirect := by
  simp [direct_eq_filter, List.filter_eq_nil_iff, AllIndirect]

theorem lookupKeys_eq_nil_iff {resolver : Resolver σ kind} :
    resolver.lookupKeys = [] ↔ ∀ params ∈ resolver.items, params.IsDirect := by
  simp [lookupKeys, List.filterMap_eq_nil_iff, Params.indirection?_eq_none_iff]

/-! ## Attached providers -/

/-- A provider that is found at a place among the references. -/
structure Attached (σ : Type) (kind : ParamsKind) where
  place : Nat
  provider : Provider σ kind

/-- The providers of the kind whose descriptors match the locator, in order. -/
def attached (resolver : Resolver σ kind) : List (Attached σ kind) :=
  match resolver.references with
  | none => []
  | some references => references.entries.zipIdx.filterMap fun (reference, place) =>
      if resolver.locator.matches? reference.descriptor then
        (reference.as? (.provider kind)).map (Attached.mk place)
      else none

theorem attached_ascending (resolver : Resolver σ kind) :
    resolver.attached.Pairwise fun earlier later => earlier.place < later.place := by
  unfold attached
  cases resolver.references with
  | none => exact .nil
  | some references =>
    have places : references.entries.zipIdx.Pairwise fun earlier later => earlier.2 < later.2 := by
      rw [← List.pairwise_map, List.zipIdx_map_snd]
      exact List.pairwise_lt_range'
    have kept {entry : Reference (Component σ) × Nat} {found : Attached σ kind}
        (isFound : (if resolver.locator.matches? entry.1.descriptor then
          (entry.1.as? (.provider kind)).map (Attached.mk entry.2) else none) = some found) :
        found.place = entry.2 := by
      split at isFound
      · obtain ⟨_, _, rfl⟩ := Option.map_eq_some_iff.mp isFound
        rfl
      · exact nomatch isFound
    refine places.filterMap _ ?_
    intro earlier later order found isFound found' isFound'
    rw [kept isFound, kept isFound']
    exact order

/-- Some reference is a provider of the kind under a descriptor that matches. -/
def HasProvider (resolver : Resolver σ kind) : Prop :=
  ∃ references, resolver.references = some references ∧
    ∃ reference ∈ references.entries, reference.type = .provider kind ∧
      resolver.locator.matches? reference.descriptor = true

theorem providers_eq (resolver : Resolver σ kind) :
    resolver.providers = resolver.attached.map Attached.provider := by
  unfold providers attached
  cases resolver.references with
  | none => rfl
  | some references =>
    simp only [References.getOptional, List.filterMap_filter, List.map_filterMap]
    refine (congrArg (List.filterMap _) (List.zipIdx_map_fst 0 references.entries).symm).trans ?_
    rw [List.filterMap_map]
    congr 1
    funext entry
    simp only [Function.comp]
    split
    · cases entry.1.as? (.provider kind) <;> rfl
    · rfl

theorem attached_ne_nil_iff {resolver : Resolver σ kind} :
    resolver.attached ≠ [] ↔ resolver.HasProvider := by
  have same : resolver.attached = [] ↔ resolver.providers = [] := by
    rw [providers_eq, List.map_eq_nil_iff]
  rw [ne_eq, same]
  unfold providers HasProvider
  cases resolver.references with
  | none => simp
  | some references =>
    simp [References.getOptional, List.filterMap_eq_nil_iff, Reference.as?, and_assoc,
      and_left_comm, and_comm]

/-! ## Lookups -/

/-- A provider to be asked about a key. -/
structure Lookup (σ : Type) (kind : ParamsKind) where
  key : String
  place : Nat
  provider : Provider σ kind

def Attached.lookup (key : String) (found : Attached σ kind) : Lookup σ kind :=
  ⟨key, found.place, found.provider⟩

/-- All pairs of an indirect item and an attached provider: in the order of the items,
and for each item in the order of the references. -/
def lookups (resolver : Resolver σ kind) : List (Lookup σ kind) :=
  resolver.items.flatMap fun params =>
    match params.indirection? with
    | none => []
    | some key => resolver.attached.map (Attached.lookup key)

theorem lookups_eq (resolver : Resolver σ kind) :
    resolver.lookups =
      resolver.lookupKeys.flatMap fun key => resolver.attached.map (Attached.lookup key) := by
  unfold lookups lookupKeys
  induction resolver.items with
  | nil => rfl
  | cons params rest ih =>
    rw [List.flatMap_cons, ih, List.filterMap_cons]
    cases params.indirection? <;> rfl

/-! ## Noted calls -/

def Attached.noted (found : Attached σ kind) : Attached (σ × List ReferenceCall) kind :=
  ⟨found.place, found.provider.noted found.place⟩

def Lookup.noted (lookup : Lookup σ kind) : Lookup (σ × List ReferenceCall) kind :=
  ⟨lookup.key, lookup.place, lookup.provider.noted lookup.place⟩

theorem zipIdx_noted (entries : List (Reference (Component σ))) (start : Nat) :
    ((entries.zipIdx start).map fun entry => entry.1.noted entry.2).zipIdx start =
      (entries.zipIdx start).map fun entry => (entry.1.noted entry.2, entry.2) := by
  induction entries generalizing start with
  | nil => rfl
  | cons reference rest ih => simp [ih]

theorem attached_noted (resolver : Resolver σ kind) :
    resolver.noted.attached = resolver.attached.map Attached.noted := by
  unfold attached noted
  cases resolver.references with
  | none => rfl
  | some references =>
    simp only [Option.map_some, zipIdx_noted, List.filterMap_map, List.map_filterMap]
    congr 1
    funext entry
    by_cases matching : resolver.locator.matches? entry.1.descriptor = true
    · simp only [Function.comp, Reference.descriptor_noted, Reference.as?_noted, matching, if_true]
      cases entry.1.as? (.provider kind) <;> rfl
    · simp [matching]

@[simp] theorem hasProvider_noted {resolver : Resolver σ kind} :
    resolver.noted.HasProvider ↔ resolver.HasProvider := by
  rw [← attached_ne_nil_iff, ← attached_ne_nil_iff, attached_noted]
  simp

theorem lookups_noted (resolver : Resolver σ kind) :
    resolver.noted.lookups = resolver.lookups.map Lookup.noted := by
  simp only [lookups_eq, attached_noted, List.map_flatMap, List.map_map]
  rfl

/-! ## Questions in the order of the lookups -/

/-- What is asked in a lookup: the action it is and the call it is seen as. -/
structure Question (σ : Type) (kind : ParamsKind) (α : Type) where
  ask : Lookup σ kind → Action σ ProviderError α
  call : Lookup σ kind → ReferenceCall

namespace Question

def one (correlation : String) : Question σ kind (Option (Params kind)) where
  ask lookup := lookup.provider.resolveOne correlation lookup.key
  call lookup := ⟨lookup.place, .resolveOne correlation lookup.key⟩

def all (correlation : String) : Question σ kind (List (Params kind)) where
  ask lookup := lookup.provider.resolveAll correlation lookup.key
  call lookup := ⟨lookup.place, .resolveAll correlation lookup.key⟩

variable {α : Type}

/-- What lookups would answer if all of them were made in turn. -/
def replies (question : Question σ kind α) (lookups : List (Lookup σ kind)) (state : σ) :
    List (Except ProviderError α) :=
  (Action.inTurn question.ask lookups state).1

/-- The state that lookups leave that are made in turn, and the calls they are seen as. -/
def trace (question : Question σ kind α) (lookups : List (Lookup σ kind)) (state : σ) :
    σ × List ReferenceCall :=
  ((Action.inTurn question.ask lookups state).2, lookups.map question.call)

/-- The action of a resolver in a lookup. -/
def run (question : Question σ kind α) (lookup : Lookup σ kind) : Action σ ResolveError α :=
  Resolver.call (question.ask lookup)

/-- The action of a resolver in a lookup, with a note of the call. -/
def runNoted (question : Question σ kind α) (lookup : Lookup σ kind) :
    Action (σ × List ReferenceCall) ResolveError α :=
  (question.run lookup).noted (question.call lookup)

theorem inTurn_run (question : Question σ kind α) (lookups : List (Lookup σ kind)) (state : σ) :
    (Action.inTurn question.run lookups state).1 =
      (question.replies lookups state).map (Except.mapError .provider) := by
  unfold run Resolver.call
  rw [Action.inTurn_adapt]
  rfl

theorem inTurn_runNoted (question : Question σ kind α) (lookups : List (Lookup σ kind))
    (state : σ) :
    Action.inTurn question.runNoted lookups (state, []) =
      ((question.replies lookups state).map (Except.mapError .provider),
        question.trace lookups state) := by
  unfold runNoted run Resolver.call
  rw [Action.inTurn_noted, Action.inTurn_adapt]
  rfl

section Pass

variable {question : Question σ kind α} {lookups : List (Lookup σ kind)} {state : σ}

/-- A pass in which nothing fails gives all answers, with a note of every call. -/
theorem outcome_pass_of_answers {answers : List α}
    (replies : question.replies lookups state = answers.map .ok) :
    (lookups.mapM question.runNoted).outcome (state, []) =
      (.ok answers, question.trace lookups state) := by
  have noted : (Action.inTurn question.runNoted lookups (state, [])).1 = answers.map .ok := by
    rw [inTurn_runNoted, replies, List.map_map]
    rfl
  rw [Action.outcome_mapM_of_ok noted, inTurn_runNoted]

/-- A pass fails with the first failure, which is the last call it makes. -/
theorem outcome_pass_of_failure {done : List α} {error : ProviderError}
    {others : List (Except ProviderError α)}
    (replies : question.replies lookups state = done.map .ok ++ .error error :: others) :
    (lookups.mapM question.runNoted).outcome (state, []) =
      (.error (.provider error), question.trace (lookups.take (done.length + 1)) state) := by
  have noted : (Action.inTurn question.runNoted lookups (state, [])).1 =
      done.map .ok ++ .error (.provider error) :: others.map (Except.mapError .provider) := by
    rw [inTurn_runNoted, replies, List.map_append, List.map_map]
    rfl
  rw [Action.outcome_mapM_of_error noted, inTurn_runNoted]

end Pass

end Question

/-! ## Providers that are required -/

theorem requireProviders_of_some {resolver : Resolver σ kind} (provided : resolver.HasProvider) :
    resolver.requireProviders = pure (resolver.attached.map Attached.provider) := by
  have attached := attached_ne_nil_iff.mpr provided
  unfold requireProviders
  rw [providers_eq, if_neg (by simpa using attached)]

theorem requireProviders_of_none {resolver : Resolver σ kind} (none : ¬ resolver.HasProvider) :
    resolver.requireProviders = throw (.missingProvider resolver.locator) := by
  have unattached : resolver.attached = [] := by
    rw [← attached_ne_nil_iff] at none
    exact Classical.not_not.mp none
  unfold requireProviders
  rw [providers_eq, unattached]
  rfl

/-! ## A provider under two references -/

/-- A provider that has an answer from its third call on, and fails for one key. -/
def lateProvider : Provider Nat .connection where
  register _ _ params := pure params
  resolveOne _ _ := do
    modify (· + 1)
    return if (← get) < 3 then none else some ⟨.empty⟩
  resolveAll _ key := do
    modify (· + 1)
    if key = "y" then throw (.unavailable "late") else return [⟨.empty⟩]

def lateReferences : References (Component Nat) :=
  let descriptor : Descriptor := ⟨"wharf", "discovery", "late", "default", "1.0"⟩
  ⟨[⟨descriptor, .text, "late"⟩, ⟨descriptor, .provider .credential, .blank Nat .credential⟩,
    ⟨descriptor, .provider .connection, lateProvider⟩,
    ⟨descriptor, .provider .connection, lateProvider⟩]⟩

/-- Looks up two keys with the provider that comes third and again fourth. -/
def late : Resolver Nat .connection where
  items := [⟨Bag.empty.put "discovery_key" "x"⟩, ⟨Bag.empty.put "discovery_key" "y"⟩]
  references := some lateReferences
  locator := ParamsKind.connection.providerLocator

theorem hasProvider_late : late.HasProvider :=
  ⟨lateReferences, rfl, lateReferences.entries[2], List.getElem_mem _, rfl, by decide +kernel⟩

end Resolver

end Provision

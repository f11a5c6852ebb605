import Mathlib.Data.List.Basic
import Provision.Proofs.Provider.Turns
import Provision.Provider.Memory

/-! Providers that act on parts of one state. Resolvers with the same references share
their providers through such a state. Two parts are apart if replacing one leaves the
other as it was. Providers in memory on parts that are apart are registered with one
after the other, each once and none at the cost of another. -/

set_option autoImplicit false

namespace Provision

/-- A part of a state, which can be read and replaced. -/
structure Part (σ τ : Type) where
  get : σ → τ
  set : τ → σ → σ
  get_set (value : τ) (state : σ) : get (set value state) = value
  set_get (state : σ) : set (get state) state = state

attribute [simp] Part.get_set Part.set_get

structure Part.Apart {σ τ : Type} (first second : Part σ τ) : Prop where
  get_first (value : τ) (state : σ) : first.get (second.set value state) = first.get state
  get_second (value : τ) (state : σ) : second.get (first.set value state) = second.get state

namespace Part

/-- The first half of a state that is a pair, as a part of it. -/
def fst (σ τ : Type) : Part (σ × τ) σ where
  get := Prod.fst
  set value state := (value, state.2)
  get_set _ _ := rfl
  set_get _ := rfl

def snd (σ τ : Type) : Part (σ × τ) τ where
  get := Prod.snd
  set value state := (state.1, value)
  get_set _ _ := rfl
  set_get _ := rfl

theorem fst_apart_snd (τ : Type) : (fst τ τ).Apart (snd τ τ) where
  get_first _ _ := rfl
  get_second _ _ := rfl

end Part

variable {σ τ ε α : Type} {kind : ParamsKind}

/-- An action on a part of a state, which leaves the rest of it alone. -/
def Action.on (part : Part σ τ) (action : Action τ ε α) : Action σ ε α :=
  ExceptT.mk fun state =>
    ((action.outcome (part.get state)).1, part.set (action.outcome (part.get state)).2 state)

theorem Action.outcome_on (part : Part σ τ) (action : Action τ ε α) (state : σ) :
    (action.on part).outcome state =
      ((action.outcome (part.get state)).1,
        part.set (action.outcome (part.get state)).2 state) := rfl

/-- A provider whose calls act on a part of a state. -/
def Provider.on (part : Part σ τ) (provider : Provider τ kind) : Provider σ kind where
  register correlation key params := (provider.register correlation key params).on part
  resolveOne correlation key := (provider.resolveOne correlation key).on part
  resolveAll correlation key := (provider.resolveAll correlation key).on part

namespace MemoryProvider

/-- The provider in memory that a part of a state is. -/
def within (part : Part σ (MemoryProvider kind)) : Provider σ kind :=
  asProvider.on part

section Calls

variable (part : Part σ (MemoryProvider kind)) (correlation key : String) (state : σ)

theorem outcome_register_within (params : Params kind) :
    ((within part).register correlation key params).outcome state =
      (.ok params, part.set ((part.get state).register key params) state) := rfl

theorem outcome_resolveOne_within :
    ((within part).resolveOne correlation key).outcome state =
      (.ok ((part.get state).resolveAll key).head?, state) := by
  have asked : ((asProvider.resolveOne correlation key).outcome (part.get state)) =
      (.ok ((part.get state).resolveOne key), part.get state) := rfl
  unfold within Provider.on
  rw [Action.outcome_on, asked, part.set_get]
  rfl

theorem outcome_resolveAll_within :
    ((within part).resolveAll correlation key).outcome state =
      (.ok ((part.get state).resolveAll key), state) := by
  have asked : ((asProvider.resolveAll correlation key).outcome (part.get state)) =
      (.ok ((part.get state).resolveAll key), part.get state) := rfl
  unfold within Provider.on
  rw [Action.outcome_on, asked, part.set_get]

end Calls

section Registering

/-- The state after registering with the providers that parts are, one after the other. -/
def registered (key : String) (params : Params kind) :
    List (Part σ (MemoryProvider kind)) → σ → σ
  | [], state => state
  | part :: rest, state =>
    registered key params rest (part.set ((part.get state).register key params) state)

/-- Everything under a key in the providers that parts are, one provider after the other. -/
def heldUnder (parts : List (Part σ (MemoryProvider kind))) (state : σ) (key : String) :
    List (Params kind) :=
  parts.flatMap fun part => (part.get state).resolveAll key

variable {key : String} {params : Params kind} {part : Part σ (MemoryProvider kind)}
  {parts : List (Part σ (MemoryProvider kind))} {state : σ}

theorem get_registered_of_apart (apart : ∀ other ∈ parts, part.Apart other) :
    part.get (registered key params parts state) = part.get state := by
  induction parts generalizing state with
  | nil => rfl
  | cons other rest ih =>
    have fromRest : ∀ later ∈ rest, part.Apart later :=
      fun later member => apart later (List.mem_cons_of_mem _ member)
    rw [registered, ih fromRest, (apart other List.mem_cons_self).get_first]

/-- Each provider gets the parameters once. -/
theorem get_registered (apart : parts.Pairwise Part.Apart) (member : part ∈ parts) :
    part.get (registered key params parts state) = (part.get state).register key params := by
  induction parts generalizing state with
  | nil => cases member
  | cons first rest ih =>
    obtain ⟨fromFirst, restApart⟩ := List.pairwise_cons.mp apart
    rw [registered]
    rcases List.mem_cons.mp member with rfl | later
    · rw [get_registered_of_apart fromFirst, Part.get_set]
    · rw [ih restApart later, (fromFirst part later).get_second]

theorem heldUnder_registered_self (apart : parts.Pairwise Part.Apart) :
    heldUnder parts (registered key params parts state) key =
      parts.flatMap fun part => (part.get state).resolveAll key ++ [params] := by
  refine List.flatMap_congr ?_
  intro part member
  rw [get_registered apart member, resolveAll_register, if_pos rfl]

theorem heldUnder_registered_of_ne (apart : parts.Pairwise Part.Apart) {other : String}
    (different : other ≠ key) :
    heldUnder parts (registered key params parts state) other = heldUnder parts state other := by
  refine List.flatMap_congr ?_
  intro part member
  rw [get_registered apart member, resolveAll_register, if_neg (Ne.symm different)]

theorem mem_heldUnder_registered (apart : parts.Pairwise Part.Apart) (nonempty : parts ≠ []) :
    params ∈ heldUnder parts (registered key params parts state) key := by
  obtain ⟨part, member⟩ := List.exists_mem_of_ne_nil _ nonempty
  rw [heldUnder_registered_self apart]
  exact List.mem_flatMap.mpr ⟨part, member, by simp⟩

theorem eq_of_mem_heldUnder_registered (apart : parts.Pairwise Part.Apart)
    (unheld : heldUnder parts state key = []) {item : Params kind}
    (found : item ∈ heldUnder parts (registered key params parts state) key) : item = params := by
  rw [heldUnder_registered_self apart] at found
  obtain ⟨part, member, found⟩ := List.mem_flatMap.mp found
  have empty := List.flatMap_eq_nil_iff.mp unheld part member
  simpa [empty] using found

end Registering

end MemoryProvider

end Provision

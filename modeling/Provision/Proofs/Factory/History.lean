import Provision.Proofs.Factory.Selection
import Provision.Proofs.Run

/-! A factory that is looked up and added to in any order. Each look-up is answered from
the registrations made before it, and later ones never take over. Which constructors run
cannot be seen in the answers: two of them may build the same component. So each is made
to note its place whenever it runs, and the notes are compared with what the look-ups
select. -/

set_option autoImplicit false

namespace Provision.Factory

inductive Call (σ α : Type)
  | register (descriptor : Descriptor) (constructor : StateM σ α)
  | canCreate (locator : Descriptor)
  | create (locator : Descriptor)

inductive Answer (α : Type)
  | registered
  | found (descriptor : Option Descriptor)
  | created (result : Except FactoryError α)

variable {σ α : Type}

/-- Serves a call. Constructors act on a state that the factory itself is no part of. -/
def serve (system : Factory σ α × σ) : Call σ α → Answer α × (Factory σ α × σ)
  | .register descriptor constructor =>
    (.registered, system.1.register descriptor constructor, system.2)
  | .canCreate locator => (.found (system.1.canCreate locator), system)
  | .create locator =>
    (.created (system.1.create locator system.2).1, system.1,
      (system.1.create locator system.2).2)

/-- The factory that calls leave, starting without registrations. -/
def after (calls : List (Call σ α)) (state : σ) : Factory σ α :=
  (runEvents serve (empty, state) calls).2.1

def Call.registration? : Call σ α → Option (Descriptor × StateM σ α)
  | .register descriptor constructor => some (descriptor, constructor)
  | _ => none

def registered (calls : List (Call σ α)) : List (Descriptor × StateM σ α) :=
  calls.filterMap Call.registration?

/-- The answers that calls have to get, given what is registered, with the places of the
constructors that run for them. -/
inductive Serves : List (Descriptor × StateM σ α) → σ → List (Call σ α) → List (Answer α) →
    List Nat → σ → Prop
  | nil {registrations state} : Serves registrations state [] [] [] state
  | register {registrations state descriptor constructor calls answers places final}
      (later : Serves (registrations ++ [(descriptor, constructor)]) state calls answers
        places final) :
      Serves registrations state (.register descriptor constructor :: calls)
        (.registered :: answers) places final
  | found {registrations state locator calls answers places final place registration}
      (earliest : Earliest locator registrations place registration)
      (later : Serves registrations state calls answers places final) :
      Serves registrations state (.canCreate locator :: calls)
        (.found (some registration.1) :: answers) places final
  | absent {registrations state locator calls answers places final}
      (misses : Misses locator registrations)
      (later : Serves registrations state calls answers places final) :
      Serves registrations state (.canCreate locator :: calls) (.found none :: answers)
        places final
  | created {registrations state locator calls answers places final place registration}
      (earliest : Earliest locator registrations place registration)
      (later : Serves registrations (registration.2 state).2 calls answers places final) :
      Serves registrations state (.create locator :: calls)
        (.created (.ok (registration.2 state).1) :: answers) (place :: places) final
  | refused {registrations state locator calls answers places final}
      (misses : Misses locator registrations)
      (later : Serves registrations state calls answers places final) :
      Serves registrations state (.create locator :: calls)
        (.created (.error (.notRegistered locator)) :: answers) places final

theorem exists_serves (registrations : List (Descriptor × StateM σ α)) (state : σ)
    (calls : List (Call σ α)) :
    ∃ answers places final, Serves registrations state calls answers places final := by
  induction calls generalizing registrations state with
  | nil => exact ⟨_, _, _, .nil⟩
  | cons call calls ih =>
    cases call with
    | register descriptor constructor =>
      obtain ⟨_, _, _, later⟩ := ih (registrations ++ [(descriptor, constructor)]) state
      exact ⟨_, _, _, .register later⟩
    | canCreate locator =>
      obtain ⟨_, _, _, later⟩ := ih registrations state
      cases earliest_or_misses locator registrations with
      | inl selects =>
        obtain ⟨_, _, earliest⟩ := selects
        exact ⟨_, _, _, .found earliest later⟩
      | inr misses => exact ⟨_, _, _, .absent misses later⟩
    | create locator =>
      cases earliest_or_misses locator registrations with
      | inl selects =>
        obtain ⟨_, registration, earliest⟩ := selects
        obtain ⟨_, _, _, later⟩ := ih registrations (registration.2 state).2
        exact ⟨_, _, _, .created earliest later⟩
      | inr misses =>
        obtain ⟨_, _, _, later⟩ := ih registrations state
        exact ⟨_, _, _, .refused misses later⟩

theorem Serves.runEvents_eq {registrations : List (Descriptor × StateM σ α)} {state final : σ}
    {calls : List (Call σ α)} {answers : List (Answer α)} {places : List Nat}
    (serves : Serves registrations state calls answers places final) :
    runEvents serve (⟨registrations⟩, state) calls =
      (answers, ⟨registrations ++ registered calls⟩, final) := by
  induction serves with
  | nil => simp [registered]
  | register later ih =>
    rw [runEvents_cons]
    simp only [serve, Factory.register, ih]
    simp [registered, Call.registration?]
  | found earliest later ih =>
    rw [runEvents_cons]
    simp only [serve, canCreate, earliest.find?, ih]
    rfl
  | @absent registrations _ locator _ _ _ _ misses later ih =>
    have answer : (Factory.mk registrations).canCreate locator = none :=
      canCreate_eq_none_iff.mpr misses
    rw [runEvents_cons]
    simp only [serve, answer, ih]
    rfl
  | created earliest later ih =>
    rw [runEvents_cons]
    simp only [serve, create_of_earliest earliest, ih]
    rfl
  | refused misses later ih =>
    rw [runEvents_cons]
    simp only [serve, create_of_misses misses, ih]
    rfl

theorem after_eq (calls : List (Call σ α)) (state : σ) :
    after calls state = ⟨registered calls⟩ := by
  obtain ⟨answers, places, final, serves⟩ := exists_serves [] state calls
  simp only [after, empty, serves.runEvents_eq, List.nil_append]

section Notes

/-- A constructor that notes its place and then does what it did. -/
def noting (place : Nat) (constructor : StateM σ α) : StateM (List Nat × σ) α :=
  fun (notes, state) => ((constructor state).1, notes ++ [place], (constructor state).2)

def notingAll (registrations : List (Descriptor × StateM σ α)) :
    List (Descriptor × StateM (List Nat × σ) α) :=
  registrations.mapIdx fun place registration => (registration.1, noting place registration.2)

/-- The calls with constructors that note their places, counted from a given one. -/
def noted : Nat → List (Call σ α) → List (Call (List Nat × σ) α)
  | _, [] => []
  | place, .register descriptor constructor :: calls =>
    .register descriptor (noting place constructor) :: noted (place + 1) calls
  | place, .canCreate locator :: calls => .canCreate locator :: noted place calls
  | place, .create locator :: calls => .create locator :: noted place calls

variable {registrations : List (Descriptor × StateM σ α)} {locator : Descriptor} {place : Nat}
  {registration : Descriptor × StateM σ α}

theorem Earliest.notingAll (earliest : Earliest locator registrations place registration) :
    Earliest locator (notingAll registrations) place
      (registration.1, noting place registration.2) := by
  refine ⟨?_, earliest.matched, ?_⟩
  · simp [Factory.notingAll, earliest.listed]
  · intro earlier before other found
    rw [Factory.notingAll, List.getElem?_mapIdx] at found
    obtain ⟨original, held, rfl⟩ := Option.map_eq_some_iff.mp found
    exact earliest.passed earlier before original held

theorem Misses.notingAll (misses : Misses locator registrations) :
    Misses locator (notingAll registrations) := by
  intro other listed
  obtain ⟨place, inside, rfl⟩ := List.mem_mapIdx.mp listed
  exact misses _ (List.getElem_mem inside)

/-- The notes of a run are the places of the constructors that had to run, each once, and
nothing else is different. -/
theorem Serves.noted {state final : σ} {calls : List (Call σ α)} {answers : List (Answer α)}
    {places : List Nat} (serves : Serves registrations state calls answers places final)
    (notes : List Nat) :
    Serves (notingAll registrations) (notes, state) (noted registrations.length calls) answers
      places (notes ++ places, final) := by
  induction serves generalizing notes with
  | nil =>
    rw [List.append_nil]
    exact .nil
  | @register registrations _ descriptor constructor _ _ _ _ later ih =>
    have grown : Factory.notingAll (registrations ++ [(descriptor, constructor)]) =
        Factory.notingAll registrations ++
          [(descriptor, noting registrations.length constructor)] := by
      simp [Factory.notingAll, List.mapIdx_append]
    have rest := ih notes
    rw [grown, List.length_append, List.length_singleton] at rest
    exact .register rest
  | found earliest later ih => exact .found earliest.notingAll (ih notes)
  | absent misses later ih => exact .absent misses.notingAll (ih notes)
  | created earliest later ih =>
    rw [List.append_cons]
    exact .created earliest.notingAll (ih _)
  | refused misses later ih => exact .refused misses.notingAll (ih notes)

end Notes

/-- What calls and any later ones get from a factory. -/
structure LookupLaws (calls : List (Call σ α)) (state : σ) : Prop where
  run : ∃ answers places final, Serves [] state calls answers places final ∧
    runEvents serve (empty, state) calls = (answers, after calls state, final) ∧
    (runEvents serve (empty, ([], state)) (noted 0 calls)).1 = answers ∧
    (runEvents serve (empty, ([], state)) (noted 0 calls)).2.2 = (places, final)
  refuses : ∀ locator now, (after calls state).canCreate locator = none ↔
    (after calls state).create locator now = (.error (.notRegistered locator), now)
  keeps : ∀ later locator descriptor,
    (after calls state).canCreate locator = some descriptor →
      (after (calls ++ later) state).canCreate locator = some descriptor ∧
        (after (calls ++ later) state).create locator = (after calls state).create locator
  own : ∀ registration ∈ registered calls,
    ∃ descriptor, (after calls state).canCreate registration.1 = some descriptor

theorem lookupLaws (calls : List (Call σ α)) (state : σ) : LookupLaws calls state := by
  constructor
  case run =>
    obtain ⟨answers, places, final, serves⟩ := exists_serves [] state calls
    have plain := serves.runEvents_eq
    have withNotes := (serves.noted []).runEvents_eq
    rw [List.nil_append] at plain
    refine ⟨answers, places, final, serves, ?_, ?_, ?_⟩
    · rw [after_eq]
      exact plain
    · exact congrArg (fun outcome => outcome.1) withNotes
    · exact congrArg (fun outcome => outcome.2.2) withNotes
  case refuses =>
    intro locator now
    rw [after_eq]
    constructor
    · intro nothing
      exact create_of_misses (canCreate_eq_none_iff.mp nothing) now
    · intro refused
      cases earliest_or_misses locator (registered calls) with
      | inl selects =>
        obtain ⟨place, registration, earliest⟩ := selects
        rw [create_of_earliest earliest] at refused
        cases congrArg Prod.fst refused
      | inr misses => exact canCreate_eq_none_iff.mpr misses
  case keeps =>
    intro later locator descriptor answer
    have grown : registered (calls ++ later) = registered calls ++ registered later :=
      List.filterMap_append
    rw [after_eq] at answer
    rw [after_eq, after_eq, grown]
    obtain ⟨place, registration, earliest, rfl⟩ := canCreate_eq_some_iff.mp answer
    have still := earliest.append (registered later)
    refine ⟨canCreate_eq_some_iff.mpr ⟨place, registration, still, rfl⟩, ?_⟩
    funext now
    rw [create_of_earliest earliest, create_of_earliest still]
  case own =>
    intro registration listed
    obtain ⟨place, held⟩ := List.mem_iff_getElem?.mp listed
    obtain ⟨first, selected, -, earliest⟩ := exists_earliest_le held (.refl registration.1)
    rw [after_eq]
    exact ⟨selected.1, canCreate_eq_some_iff.mpr ⟨first, selected, earliest, rfl⟩⟩

end Provision.Factory

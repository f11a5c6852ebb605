import Provision.Time.Basic

/-! Runs of a component that serves one event after the other, each at an instant.
The events of all callers form one sequence: a component is entered by one caller
at a time. Answers are compared by relating the states of two components. -/

set_option autoImplicit false

namespace Provision

/-- Serves events in their order, and gives the answers and the state that is left. -/
def runEvents {σ ε α : Type} (serve : σ → ε → α × σ) : σ → List ε → List α × σ
  | state, [] => ([], state)
  | state, event :: rest =>
    let (answer, next) := serve state event
    let (answers, final) := runEvents serve next rest
    (answer :: answers, final)

/-- Instants that never go back, from a first one on. -/
def Ascending (start : Instant) (instants : List Instant) : Prop :=
  (start :: instants).Pairwise (· ≤ ·)

instance (start : Instant) (instants : List Instant) : Decidable (Ascending start instants) :=
  inferInstanceAs (Decidable (List.Pairwise _ _))

theorem Instant.le_trans {s t u : Instant} (first : s ≤ t) (second : t ≤ u) : s ≤ u :=
  Nat.le_trans first second

theorem Instant.le_refl (t : Instant) : t ≤ t := Nat.le_refl t.nanos

@[simp] theorem ascending_nil (start : Instant) : Ascending start [] := by
  simp [Ascending]

theorem ascending_cons {start now : Instant} {rest : List Instant} :
    Ascending start (now :: rest) ↔ start ≤ now ∧ Ascending now rest := by
  constructor
  · intro order
    obtain ⟨first, tail⟩ := List.pairwise_cons.mp order
    exact ⟨first now List.mem_cons_self, tail⟩
  · intro ⟨first, tail⟩
    refine List.pairwise_cons.mpr ⟨?_, tail⟩
    intro later member
    rcases List.mem_cons.mp member with rfl | member
    · exact first
    · exact Instant.le_trans first ((List.pairwise_cons.mp tail).1 later member)

theorem ascending_append {start : Instant} {first rest : List Instant} :
    Ascending start (first ++ rest) ↔
      Ascending start first ∧ Ascending (first.getLastD start) rest := by
  induction first generalizing start with
  | nil => simp
  | cons now first ih =>
    rw [List.cons_append, ascending_cons, ascending_cons, ih, and_assoc]
    cases first <;> rfl

section Runs

variable {σ τ ε α : Type} {serve : σ → ε → α × σ}

@[simp] theorem runEvents_nil (state : σ) : runEvents serve state [] = ([], state) := rfl

@[simp] theorem runEvents_cons (state : σ) (event : ε) (rest : List ε) :
    runEvents serve state (event :: rest) =
      ((serve state event).1 :: (runEvents serve (serve state event).2 rest).1,
        (runEvents serve (serve state event).2 rest).2) := rfl

theorem runEvents_invariant (Holds : σ → Prop)
    (step : ∀ {event : ε} {state : σ}, Holds state → Holds (serve state event).2)
    {state : σ} (initially : Holds state) (events : List ε) :
    Holds (runEvents serve state events).2 := by
  induction events generalizing state with
  | nil => exact initially
  | cons event rest ih => exact ih (step initially)

/-- If serving an event keeps two states related and gives the same answer, and waiting
keeps them related too, then whole runs give the same answers. -/
theorem runEvents_simulation (Related : Instant → σ → τ → Prop) {serve' : τ → ε → α × τ}
    {instant : ε → Instant}
    (wait : ∀ {now later : Instant} {left : σ} {right : τ},
      now ≤ later → Related now left right → Related later left right)
    (step : ∀ {event : ε} {left : σ} {right : τ}, Related (instant event) left right →
      (serve left event).1 = (serve' right event).1 ∧
        Related (instant event) (serve left event).2 (serve' right event).2)
    {start : Instant} {events : List ε} {left : σ} {right : τ}
    (related : Related start left right) (order : Ascending start (events.map instant)) :
    (runEvents serve left events).1 = (runEvents serve' right events).1 ∧
      Related ((events.map instant).getLastD start)
        (runEvents serve left events).2 (runEvents serve' right events).2 := by
  induction events generalizing start left right with
  | nil => exact ⟨rfl, related⟩
  | cons event rest ih =>
    obtain ⟨notBefore, later⟩ := ascending_cons.mp order
    obtain ⟨sameAnswer, stillRelated⟩ := step (wait notBefore related)
    obtain ⟨sameAnswers, finallyRelated⟩ := ih stillRelated later
    refine ⟨?_, ?_⟩
    · simp only [runEvents_cons, sameAnswer, sameAnswers]
    · cases rest <;> exact finallyRelated

end Runs

end Provision

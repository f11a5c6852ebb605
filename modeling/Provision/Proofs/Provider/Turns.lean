import Provision.Proofs.Run
import Provision.Provider.Basic

/-! Actions that are taken one after the other. A caller may take all of them, or stop
at the first answer that settles its matter. What it gets then is told by the answers
to all of its questions, since those after the settling one make no difference. Calls
can be noted beside the state, and noting them changes no answer. -/

set_option autoImplicit false

namespace Provision.Action

variable {σ ε ε' α β ι ι' κ : Type}

/-- What an action gives in a state, and the state that it leaves. -/
def outcome (action : Action σ ε α) (state : σ) : Except ε α × σ :=
  Id.run (StateT.run (ExceptT.run action) state)

@[simp] theorem outcome_pure (value : α) (state : σ) :
    (pure value : Action σ ε α).outcome state = (.ok value, state) := rfl

@[simp] theorem outcome_throw (error : ε) (state : σ) :
    (throw error : Action σ ε α).outcome state = (.error error, state) := rfl

theorem outcome_bind (action : Action σ ε α) (next : α → Action σ ε β) (state : σ) :
    (action >>= next).outcome state =
      match action.outcome state with
      | (.ok value, left) => (next value).outcome left
      | (.error error, left) => (.error error, left) := by
  simp only [outcome, ExceptT.run_bind, StateT.run_bind, Id.run_bind]
  rcases Id.run (StateT.run (ExceptT.run action) state) with ⟨reply, left⟩
  cases reply <;> rfl

theorem outcome_bind_ok {action : Action σ ε α} {state left : σ} {value : α}
    (reply : action.outcome state = (.ok value, left)) (next : α → Action σ ε β) :
    (action >>= next).outcome state = (next value).outcome left := by
  rw [outcome_bind, reply]

theorem outcome_bind_error {action : Action σ ε α} {state left : σ} {error : ε}
    (reply : action.outcome state = (.error error, left)) (next : α → Action σ ε β) :
    (action >>= next).outcome state = (.error error, left) := by
  rw [outcome_bind, reply]

theorem outcome_map (f : α → β) (action : Action σ ε α) (state : σ) :
    (f <$> action).outcome state =
      ((action.outcome state).1.map f, (action.outcome state).2) := by
  rw [← bind_pure_comp, outcome_bind]
  rcases action.outcome state with ⟨_ | value, left⟩ <;> rfl

@[simp] theorem outcome_beside {ρ : Type} (action : Action σ ε α) (other : ρ) (state : σ) :
    action.beside.outcome (other, state) =
      ((action.outcome state).1, other, (action.outcome state).2) := rfl

@[simp] theorem outcome_get (state : σ) :
    (get : Action σ ε σ).outcome state = (.ok state, state) := rfl

@[simp] theorem outcome_modify (change : σ → σ) (state : σ) :
    (modify change : Action σ ε PUnit).outcome state = (.ok ⟨⟩, change state) := rfl

/-! ## Questions in turn -/

/-- What questions are answered that are all asked one after the other, whatever the
answers are, and the state that is left. -/
def inTurn (ask : ι → Action σ ε α) (questions : List ι) (state : σ) :
    List (Except ε α) × σ :=
  runEvents (fun state question => (ask question).outcome state) state questions

/-- Asks until there is an answer, or a failure. -/
def search (ask : ι → Action σ ε (Option α)) : List ι → Action σ ε (Option α)
  | [] => pure none
  | question :: rest => do
    match ← ask question with
    | some found => return some found
    | none => search ask rest

section InTurn

variable {ask : ι → Action σ ε α} {question : ι} {questions rest : List ι} {state : σ}

@[simp] theorem inTurn_nil : inTurn ask [] state = ([], state) := rfl

@[simp] theorem inTurn_cons :
    inTurn ask (question :: rest) state =
      (((ask question).outcome state).1 :: (inTurn ask rest ((ask question).outcome state).2).1,
        (inTurn ask rest ((ask question).outcome state).2).2) := rfl

theorem length_inTurn : (inTurn ask questions state).1.length = questions.length := by
  induction questions generalizing state with
  | nil => rfl
  | cons question rest ih => simp [ih]

/-- If nothing fails, the whole gives all answers in the order of the questions. -/
theorem outcome_mapM_of_ok {answers : List α}
    (replies : (inTurn ask questions state).1 = answers.map .ok) :
    (questions.mapM ask).outcome state = (.ok answers, (inTurn ask questions state).2) := by
  induction questions generalizing state answers with
  | nil =>
    have none : answers = [] := by simpa using replies.symm
    simp [none]
  | cons question rest ih =>
    cases answers with
    | nil => simp at replies
    | cons answer answers =>
      rcases asked : (ask question).outcome state with ⟨reply, left⟩
      simp only [inTurn_cons, asked, List.map_cons, List.cons.injEq] at replies ⊢
      obtain ⟨rfl, restReplies⟩ := replies
      rw [List.mapM_cons, outcome_bind_ok asked, outcome_bind_ok (ih restReplies), outcome_pure]

/-- The first failure is the failure of the whole, and nothing is asked after it. -/
theorem outcome_mapM_of_error {done : List α} {error : ε} {others : List (Except ε α)}
    (replies : (inTurn ask questions state).1 = done.map .ok ++ .error error :: others) :
    (questions.mapM ask).outcome state =
      (.error error, (inTurn ask (questions.take (done.length + 1)) state).2) := by
  induction questions generalizing state done with
  | nil => simp at replies
  | cons question rest ih =>
    rcases asked : (ask question).outcome state with ⟨reply, left⟩
    rw [List.mapM_cons]
    cases done with
    | nil =>
      simp only [inTurn_cons, asked, List.map_nil, List.nil_append, List.cons.injEq] at replies
      obtain ⟨rfl, -⟩ := replies
      rw [outcome_bind_error asked]
      simp [asked]
    | cons answer done =>
      simp only [inTurn_cons, asked, List.map_cons, List.cons_append, List.cons.injEq] at replies
      obtain ⟨rfl, restReplies⟩ := replies
      rw [outcome_bind_ok asked, outcome_bind_error (ih restReplies)]
      simp [asked]

end InTurn

section Search

variable {ask : ι → Action σ ε (Option α)} {questions : List ι} {state : σ}

theorem search_append (first rest : List ι) :
    search ask (first ++ rest) = (do
      match ← search ask first with
      | some found => return some found
      | none => search ask rest) := by
  induction first with
  | nil => simp [search]
  | cons question first ih =>
    simp only [List.cons_append, search, ih, bind_assoc]
    congr 1
    funext answer
    cases answer <;> simp

theorem search_map (f : ι' → ι) (questions : List ι') :
    search ask (questions.map f) = search (fun question => ask (f question)) questions := by
  induction questions with
  | nil => rfl
  | cons question rest ih => simp [search, ih]

/-- The first reply that settles a search is what it gives, and nothing is asked after it. -/
theorem outcome_search_of_settled {misses : Nat} {reply : Except ε (Option α)}
    {others : List (Except ε (Option α))} (settles : reply ≠ .ok none)
    (replies : (inTurn ask questions state).1 =
      List.replicate misses (.ok none) ++ reply :: others) :
    (search ask questions).outcome state =
      (reply, (inTurn ask (questions.take (misses + 1)) state).2) := by
  induction questions generalizing state misses with
  | nil => simp at replies
  | cons question rest ih =>
    rcases asked : (ask question).outcome state with ⟨first, left⟩
    rw [search]
    cases misses with
    | zero =>
      simp only [inTurn_cons, asked, List.replicate_zero, List.nil_append,
        List.cons.injEq] at replies
      obtain ⟨rfl, -⟩ := replies
      rcases first with error | answer
      · rw [outcome_bind_error asked]
        simp [asked]
      · rw [outcome_bind_ok asked]
        cases answer with
        | none => exact absurd rfl settles
        | some found => simp [asked]
    | succ misses =>
      simp only [inTurn_cons, asked, List.replicate_succ, List.cons_append,
        List.cons.injEq] at replies
      obtain ⟨rfl, restReplies⟩ := replies
      rw [outcome_bind_ok asked, ih restReplies]
      simp [asked]

theorem outcome_search_of_misses
    (replies : (inTurn ask questions state).1 = List.replicate questions.length (.ok none)) :
    (search ask questions).outcome state = (.ok none, (inTurn ask questions state).2) := by
  induction questions generalizing state with
  | nil => rfl
  | cons question rest ih =>
    rcases asked : (ask question).outcome state with ⟨first, left⟩
    simp only [inTurn_cons, asked, List.length_cons, List.replicate_succ,
      List.cons.injEq] at replies ⊢
    obtain ⟨rfl, restReplies⟩ := replies
    rw [search, outcome_bind_ok asked, ih restReplies]

/-- If nothing fails, a search gives the first thing that is found. -/
theorem outcome_search_of_ok {answers : List (Option α)}
    (replies : (inTurn ask questions state).1 = answers.map .ok) :
    ((search ask questions).outcome state).1 = .ok (answers.findSome? id) := by
  induction questions generalizing state answers with
  | nil =>
    obtain rfl : answers = [] := by simpa using replies.symm
    rfl
  | cons question rest ih =>
    cases answers with
    | nil => simp at replies
    | cons answer answers =>
      rcases asked : (ask question).outcome state with ⟨reply, left⟩
      simp only [inTurn_cons, asked, List.map_cons, List.cons.injEq] at replies
      obtain ⟨rfl, restReplies⟩ := replies
      rw [search, outcome_bind_ok asked]
      cases answer with
      | none => exact (ih restReplies).trans rfl
      | some found => rfl

/-- A search is settled by some reply, unless all replies are misses. -/
theorem replies_cases (replies : List (Except ε (Option α))) :
    replies = List.replicate replies.length (.ok none) ∨
      ∃ (misses : Nat) (reply : Except ε (Option α)) (others : List (Except ε (Option α))),
        reply ≠ .ok none ∧ replies = List.replicate misses (.ok none) ++ reply :: others := by
  induction replies with
  | nil => exact .inl rfl
  | cons reply rest ih =>
    rcases reply with error | _ | found
    · exact .inr ⟨0, _, rest, by simp, rfl⟩
    · rcases ih with misses | ⟨misses, reply, others, settles, split⟩
      · exact .inl (by rw [List.length_cons, List.replicate_succ, ← misses])
      · exact .inr ⟨misses + 1, reply, others, settles, by rw [split]; rfl⟩
    · exact .inr ⟨0, _, rest, by simp, rfl⟩

end Search

/-- Either nothing fails, or there is a first failure. -/
theorem answers_cases (replies : List (Except ε α)) :
    (∃ answers : List α, replies = answers.map .ok) ∨
      ∃ (done : List α) (error : ε) (others : List (Except ε α)),
        replies = done.map .ok ++ .error error :: others := by
  induction replies with
  | nil => exact .inl ⟨[], rfl⟩
  | cons reply rest ih =>
    cases reply with
    | error error => exact .inr ⟨[], error, rest, rfl⟩
    | ok answer =>
      rcases ih with ⟨answers, all⟩ | ⟨done, error, others, split⟩
      · exact .inl ⟨answer :: answers, by rw [all]; rfl⟩
      · exact .inr ⟨answer :: done, error, others, by rw [split]; rfl⟩

/-! ## Calls noted beside the state -/

/-- An action with a note of its being taken, after the earlier notes. -/
def noted (note : κ) (action : Action σ ε α) : Action (σ × List κ) ε α :=
  ExceptT.mk fun (state, notes) =>
    ((action.outcome state).1, (action.outcome state).2, notes ++ [note])

@[simp] theorem outcome_noted (note : κ) (action : Action σ ε α) (state : σ) (notes : List κ) :
    (action.noted note).outcome (state, notes) =
      ((action.outcome state).1, (action.outcome state).2, notes ++ [note]) := rfl

theorem inTurn_noted (note : ι → κ) (ask : ι → Action σ ε α) (questions : List ι) (state : σ)
    (notes : List κ) :
    inTurn (fun question => (ask question).noted (note question)) questions (state, notes) =
      ((inTurn ask questions state).1, (inTurn ask questions state).2,
        notes ++ questions.map note) := by
  induction questions generalizing state notes with
  | nil => simp
  | cons question rest ih => simp [ih]

/-- A search gives what it gives without notes. -/
theorem outcome_search_noted (note : ι → κ) (ask : ι → Action σ ε (Option α))
    (questions : List ι) (state : σ) (notes : List κ) :
    ∃ later : List κ,
      (search (fun question => (ask question).noted (note question)) questions).outcome
          (state, notes) =
        (((search ask questions).outcome state).1, ((search ask questions).outcome state).2,
          later) := by
  induction questions generalizing state notes with
  | nil => exact ⟨notes, rfl⟩
  | cons question rest ih =>
    rcases asked : (ask question).outcome state with ⟨reply, left⟩
    have alsoAsked : ((ask question).noted (note question)).outcome (state, notes) =
        (reply, left, notes ++ [note question]) := by rw [outcome_noted, asked]
    rw [search, search]
    rcases reply with error | _ | found
    · rw [outcome_bind_error asked, outcome_bind_error alsoAsked]
      exact ⟨_, rfl⟩
    · rw [outcome_bind_ok asked, outcome_bind_ok alsoAsked]
      exact ih left _
    · rw [outcome_bind_ok asked, outcome_bind_ok alsoAsked]
      exact ⟨_, rfl⟩

theorem outcome_mapM_noted (note : ι → κ) (ask : ι → Action σ ε α) (questions : List ι)
    (state : σ) (notes : List κ) :
    ∃ later : List κ,
      (questions.mapM fun question => (ask question).noted (note question)).outcome
          (state, notes) =
        (((questions.mapM ask).outcome state).1, ((questions.mapM ask).outcome state).2,
          later) := by
  induction questions generalizing state notes with
  | nil => exact ⟨notes, rfl⟩
  | cons question rest ih =>
    rcases asked : (ask question).outcome state with ⟨reply, left⟩
    have alsoAsked : ((ask question).noted (note question)).outcome (state, notes) =
        (reply, left, notes ++ [note question]) := by rw [outcome_noted, asked]
    rw [List.mapM_cons, List.mapM_cons]
    cases reply with
    | error error =>
      rw [outcome_bind_error asked, outcome_bind_error alsoAsked]
      exact ⟨_, rfl⟩
    | ok answer =>
      rw [outcome_bind_ok asked, outcome_bind_ok alsoAsked]
      obtain ⟨later, same⟩ := ih left (notes ++ [note question])
      refine ⟨later, ?_⟩
      rw [outcome_bind, outcome_bind, same]
      rcases (rest.mapM ask).outcome left with ⟨_ | answers, final⟩ <;> rfl

theorem outcome_adapt (f : ε → ε') (action : Action σ ε α) (state : σ) :
    outcome (ExceptT.adapt f action : Action σ ε' α) state =
      ((action.outcome state).1.mapError f, (action.outcome state).2) := rfl

theorem inTurn_adapt (f : ε → ε') (ask : ι → Action σ ε α) (questions : List ι) (state : σ) :
    inTurn (fun question => (ExceptT.adapt f (ask question) : Action σ ε' α)) questions state =
      ((inTurn ask questions state).1.map (Except.mapError f), (inTurn ask questions state).2) := by
  induction questions generalizing state with
  | nil => rfl
  | cons question rest ih => simp [ih, outcome_adapt]

end Provision.Action

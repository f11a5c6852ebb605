import Provision.Proofs.Resolver.Questions

/-! The collection of all usable parameters: what a resolver answers, and which calls it
makes. Direct items come first wherever they stand among the others, and one failure
discards everything that was collected before it. -/

set_option autoImplicit false

namespace Provision.Resolver

variable {σ : Type} {kind : ParamsKind}

/-- The answer of a resolver, the state that it leaves, and the calls that it makes. -/
def resolveAllSeen (resolver : Resolver σ kind) (correlation : String) (state : σ) :
    Except ResolveError (List (Params kind)) × σ × List ReferenceCall :=
  (resolver.noted.resolveAll correlation).outcome (state, [])

/-! ## The collection as one pass over the lookups -/

theorem askAll_eq_mapM (correlation key : String) (found : List (Attached σ kind)) :
    askAll correlation key (found.map Attached.provider) =
      List.flatten <$> (found.map (Attached.lookup key)).mapM
        (Question.all correlation).run := by
  induction found with
  | nil => simp [askAll]
  | cons first rest ih =>
    simp only [List.map_cons, askAll, ih, List.mapM_cons, map_bind, bind_map_left, map_pure,
      List.flatten_cons]
    rfl

section Collection

variable (resolver : Resolver σ kind) (correlation : String)

theorem allOf_eq_mapM (provided : resolver.HasProvider) (keys : List String) :
    resolver.allOf correlation keys =
      List.flatten <$> (keys.flatMap fun key => resolver.attached.map (Attached.lookup key)).mapM
        (Question.all correlation).run := by
  induction keys with
  | nil => simp [allOf]
  | cons key rest ih =>
    rw [allOf, requireProviders_of_some provided, pure_bind, askAll_eq_mapM, ih,
      List.flatMap_cons, List.mapM_append]
    simp only [map_bind, bind_map_left, map_pure, List.flatten_append]

theorem resolveAll_of_direct (direct : ∀ params ∈ resolver.items, params.IsDirect) :
    resolver.resolveAll correlation = pure resolver.items := by
  have kept : resolver.direct = resolver.items := by
    rw [direct_eq_filter, List.filter_eq_self]
    simpa using direct
  unfold resolveAll
  rw [lookupKeys_eq_nil_iff.mpr direct, allOf, pure_bind, List.append_nil, kept]

theorem resolveAll_of_missing (some : ∃ params ∈ resolver.items, ¬ params.IsDirect)
    (none : ¬ resolver.HasProvider) :
    resolver.resolveAll correlation = throw (.missingProvider resolver.locator) := by
  unfold resolveAll
  cases wanted : resolver.lookupKeys with
  | nil =>
    obtain ⟨params, member, indirect⟩ := some
    exact absurd (lookupKeys_eq_nil_iff.mp wanted params member) indirect
  | cons key rest =>
    rw [allOf, requireProviders_of_none none]
    rfl

theorem resolveAll_of_provided (provided : resolver.HasProvider) :
    resolver.resolveAll correlation =
      (fun answers => resolver.items.filter (·.IsDirect) ++ answers.flatten) <$>
        resolver.lookups.mapM (Question.all correlation).run := by
  unfold resolveAll
  rw [direct_eq_filter, resolver.allOf_eq_mapM correlation provided, lookups_eq]
  simp only [bind_pure_comp, Functor.map_map]

end Collection

/-! ## What is seen of it -/

section Seen

variable {resolver : Resolver σ kind} {correlation : String} {state : σ}

theorem resolveAllSeen_of_direct (direct : ∀ params ∈ resolver.items, params.IsDirect) :
    resolver.resolveAllSeen correlation state = (.ok resolver.items, state, []) := by
  rw [resolveAllSeen, resolver.noted.resolveAll_of_direct correlation direct,
    Action.outcome_pure]
  rfl

theorem resolveAllSeen_of_missing (some : ∃ params ∈ resolver.items, ¬ params.IsDirect)
    (none : ¬ resolver.HasProvider) :
    resolver.resolveAllSeen correlation state =
      (.error (.missingProvider resolver.locator), state, []) := by
  rw [resolveAllSeen, resolver.noted.resolveAll_of_missing correlation some
    (mt hasProvider_noted.mp none), Action.outcome_throw]
  rfl

theorem resolveAllSeen_of_provided (provided : resolver.HasProvider) :
    resolver.resolveAllSeen correlation state =
      Action.outcome ((fun answers => resolver.items.filter (·.IsDirect) ++ answers.flatten) <$>
        resolver.lookups.mapM (Question.all correlation).runNoted) (state, []) := by
  rw [resolveAllSeen, resolver.noted.resolveAll_of_provided correlation
    (hasProvider_noted.mpr provided), lookups_noted, List.mapM_map]
  rfl

theorem resolveAllSeen_of_answers (provided : resolver.HasProvider)
    {answers : List (List (Params kind))}
    (replies : (Question.all correlation).replies resolver.lookups state = answers.map .ok) :
    resolver.resolveAllSeen correlation state =
      (.ok (resolver.items.filter (·.IsDirect) ++ answers.flatten),
        (Question.all correlation).trace resolver.lookups state) := by
  rw [resolveAllSeen_of_provided provided, Action.outcome_map,
    Question.outcome_pass_of_answers replies]
  rfl

theorem resolveAllSeen_of_failure (provided : resolver.HasProvider)
    {done : List (List (Params kind))} {error : ProviderError}
    {others : List (Except ProviderError (List (Params kind)))}
    (replies : (Question.all correlation).replies resolver.lookups state =
      done.map .ok ++ .error error :: others) :
    resolver.resolveAllSeen correlation state =
      (.error (.provider error),
        (Question.all correlation).trace (resolver.lookups.take (done.length + 1)) state) := by
  rw [resolveAllSeen_of_provided provided, Action.outcome_map,
    Question.outcome_pass_of_failure replies]
  rfl

theorem resolveAll_unnoted :
    (resolver.resolveAll correlation).outcome state =
      ((resolver.resolveAllSeen correlation state).1,
        (resolver.resolveAllSeen correlation state).2.1) := by
  by_cases direct : ∀ params ∈ resolver.items, params.IsDirect
  · rw [resolveAllSeen_of_direct direct, resolver.resolveAll_of_direct correlation direct,
      Action.outcome_pure]
  by_cases provided : resolver.HasProvider
  · obtain ⟨calls, noted⟩ := Action.outcome_mapM_noted (Question.all correlation).call
      (Question.all correlation).run resolver.lookups state []
    rw [resolver.resolveAll_of_provided correlation provided,
      resolveAllSeen_of_provided provided, Action.outcome_map, Action.outcome_map]
    unfold Question.runNoted
    rw [noted]
  · have some : ∃ params ∈ resolver.items, ¬ params.IsDirect := by simpa using direct
    rw [resolveAllSeen_of_missing some provided,
      resolver.resolveAll_of_missing correlation some provided, Action.outcome_throw]

end Seen

/-- What a resolver does to collect all usable parameters. The lookups are in the order
of the items and then of the references, which are told apart by their places. -/
structure CollectsInOrder (resolver : Resolver σ kind) (correlation : String) (state : σ) :
    Prop where
  direct : (∀ params ∈ resolver.items, params.IsDirect) →
    resolver.resolveAllSeen correlation state = (.ok resolver.items, state, [])
  missing : (∃ params ∈ resolver.items, ¬ params.IsDirect) → ¬ resolver.HasProvider →
    resolver.resolveAllSeen correlation state =
      (.error (.missingProvider resolver.locator), state, [])
  ascending : resolver.attached.Pairwise fun earlier later => earlier.place < later.place
  asked : resolver.HasProvider →
    (∃ answers : List (List (Params kind)),
      (Question.all correlation).replies resolver.lookups state = answers.map .ok ∧
        resolver.resolveAllSeen correlation state =
          (.ok (resolver.items.filter (·.IsDirect) ++ answers.flatten),
            (Question.all correlation).trace resolver.lookups state)) ∨
    ∃ (done : List (List (Params kind))) (error : ProviderError)
        (others : List (Except ProviderError (List (Params kind)))),
      (Question.all correlation).replies resolver.lookups state =
          done.map .ok ++ .error error :: others ∧
        resolver.resolveAllSeen correlation state =
          (.error (.provider error),
            (Question.all correlation).trace (resolver.lookups.take (done.length + 1)) state)
  unnoted : (resolver.resolveAll correlation).outcome state =
    ((resolver.resolveAllSeen correlation state).1,
      (resolver.resolveAllSeen correlation state).2.1)

/-- A resolver gives its direct items and then the answers to all lookups, unless one
fails, and makes no call after that one. -/
theorem collectsInOrder (resolver : Resolver σ kind) (correlation : String) (state : σ) :
    CollectsInOrder resolver correlation state := by
  constructor
  case direct => exact resolveAllSeen_of_direct
  case missing => exact resolveAllSeen_of_missing
  case ascending => exact resolver.attached_ascending
  case asked =>
    intro provided
    rcases Action.answers_cases ((Question.all correlation).replies resolver.lookups state) with
      ⟨answers, replies⟩ | ⟨done, error, others, replies⟩
    · exact .inl ⟨answers, replies, resolveAllSeen_of_answers provided replies⟩
    · exact .inr ⟨done, error, others, replies, resolveAllSeen_of_failure provided replies⟩
  case unnoted => exact resolveAll_unnoted

/-- The direct item and the answers for the first key are lost with the failure for the
second one. -/
theorem collectsInOrder_late :
    CollectsInOrder (late.add ⟨Bag.empty.put "host" "wharf"⟩) "id" 0 ∧
    (late.add ⟨Bag.empty.put "host" "wharf"⟩).HasProvider ∧
    ((late.add ⟨Bag.empty.put "host" "wharf"⟩).resolveAllSeen "id" 0).1 =
      .error (.provider (.unavailable "late")) ∧
    ((late.add ⟨Bag.empty.put "host" "wharf"⟩).resolveAllSeen "id" 0).2.2 =
      [⟨2, .resolveAll "id" "x"⟩, ⟨3, .resolveAll "id" "x"⟩, ⟨2, .resolveAll "id" "y"⟩] :=
  ⟨collectsInOrder _ "id" 0, hasProvider_late, rfl, by decide +kernel⟩

end Provision.Resolver

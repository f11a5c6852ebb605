import Provision.Proofs.Resolver.Questions

/-! The search of a resolver for the first usable parameters: what it answers, and which
calls it makes. The providers are any actions on a state, so what one of them answers
may depend on everything that was asked before. -/

set_option autoImplicit false

namespace Provision.Resolver

variable {σ : Type} {kind : ParamsKind}

/-- The answer of a resolver, the state that it leaves, and the calls that it makes. -/
def resolveSeen (resolver : Resolver σ kind) (correlation : String) (state : σ) :
    Except ResolveError (Option (Params kind)) × σ × List ReferenceCall :=
  (resolver.noted.resolve correlation).outcome (state, [])

/-! ## The search as one pass over the lookups -/

theorem askOne_eq_search (correlation key : String) (found : List (Attached σ kind)) :
    askOne correlation key (found.map Attached.provider) =
      Action.search (Question.one correlation).run (found.map (Attached.lookup key)) := by
  induction found with
  | nil => rfl
  | cons first rest ih =>
    simp only [List.map_cons, askOne, Action.search, ih]
    congr 1
    funext answer
    cases answer <;> rfl

section Search

variable (resolver : Resolver σ kind) (correlation : String)

theorem firstOf_eq_search (provided : resolver.HasProvider) (keys : List String) :
    resolver.firstOf correlation keys =
      Action.search (Question.one correlation).run
        (keys.flatMap fun key => resolver.attached.map (Attached.lookup key)) := by
  induction keys with
  | nil => rfl
  | cons key rest ih =>
    rw [firstOf, requireProviders_of_some provided, pure_bind, askOne_eq_search, ih,
      List.flatMap_cons, Action.search_append]
    congr 1
    funext answer
    cases answer <;> rfl

theorem resolve_of_direct {params : Params kind}
    (first : resolver.items.find? (·.IsDirect) = some params) :
    resolver.resolve correlation = pure (some params) := by
  have head : resolver.direct.head? = some params := by
    rw [direct_eq_filter, List.head?_filter, first]
  unfold resolve
  cases held : resolver.direct with
  | nil => simp [held] at head
  | cons usable rest =>
    simp only [held, List.head?_cons, Option.some.injEq] at head
    rw [head]

theorem resolve_of_indirect (indirect : resolver.AllIndirect) :
    resolver.resolve correlation = resolver.firstOf correlation resolver.lookupKeys := by
  unfold resolve
  rw [direct_eq_nil_iff.mpr indirect]

theorem resolve_of_empty (empty : resolver.items = []) :
    resolver.resolve correlation = pure none := by
  simp [resolve, direct, lookupKeys, empty, firstOf]

theorem resolve_of_missing (some : resolver.items ≠ []) (indirect : resolver.AllIndirect)
    (none : ¬ resolver.HasProvider) :
    resolver.resolve correlation = throw (.missingProvider resolver.locator) := by
  rw [resolver.resolve_of_indirect correlation indirect]
  cases wanted : resolver.lookupKeys with
  | nil =>
    obtain ⟨params, member⟩ := List.exists_mem_of_ne_nil _ some
    exact absurd (lookupKeys_eq_nil_iff.mp wanted params member) (indirect params member)
  | cons key rest =>
    rw [firstOf, requireProviders_of_none none]
    rfl

theorem resolve_of_provided (indirect : resolver.AllIndirect) (provided : resolver.HasProvider) :
    resolver.resolve correlation =
      Action.search (Question.one correlation).run resolver.lookups := by
  rw [resolver.resolve_of_indirect correlation indirect,
    resolver.firstOf_eq_search correlation provided, lookups_eq]

/-- An item is direct, or there is none, or all of them have to be looked up with
providers that there are or are not. -/
theorem items_cases :
    (∃ params, resolver.items.find? (·.IsDirect) = some params) ∨ resolver.items = [] ∨
      resolver.items ≠ [] ∧ resolver.AllIndirect ∧ ¬ resolver.HasProvider ∨
      resolver.AllIndirect ∧ resolver.HasProvider := by
  cases first : resolver.items.find? (·.IsDirect) with
  | some params => exact .inl ⟨params, rfl⟩
  | none =>
    have indirect : resolver.AllIndirect := by simpa [AllIndirect] using first
    by_cases empty : resolver.items = []
    · exact .inr (.inl empty)
    · by_cases provided : resolver.HasProvider
      · exact .inr (.inr (.inr ⟨indirect, provided⟩))
      · exact .inr (.inr (.inl ⟨empty, indirect, provided⟩))

end Search

/-! ## What is seen of it -/

section Seen

variable {resolver : Resolver σ kind} {correlation : String} {state : σ}

theorem resolveSeen_of_direct {params : Params kind}
    (first : resolver.items.find? (·.IsDirect) = some params) :
    resolver.resolveSeen correlation state = (.ok (some params), state, []) := by
  rw [resolveSeen, resolver.noted.resolve_of_direct correlation first, Action.outcome_pure]

theorem resolveSeen_of_empty (empty : resolver.items = []) :
    resolver.resolveSeen correlation state = (.ok none, state, []) := by
  rw [resolveSeen, resolver.noted.resolve_of_empty correlation empty, Action.outcome_pure]

theorem resolveSeen_of_missing (some : resolver.items ≠ []) (indirect : resolver.AllIndirect)
    (none : ¬ resolver.HasProvider) :
    resolver.resolveSeen correlation state =
      (.error (.missingProvider resolver.locator), state, []) := by
  rw [resolveSeen, resolver.noted.resolve_of_missing correlation some indirect
    (mt hasProvider_noted.mp none), Action.outcome_throw]
  rfl

theorem resolveSeen_of_provided (indirect : resolver.AllIndirect)
    (provided : resolver.HasProvider) :
    resolver.resolveSeen correlation state =
      (Action.search (Question.one correlation).runNoted resolver.lookups).outcome (state, []) := by
  rw [resolveSeen, resolver.noted.resolve_of_provided correlation indirect
    (hasProvider_noted.mpr provided), lookups_noted, Action.search_map]
  rfl

theorem mapError_ne_none {reply : Except ProviderError (Option (Params kind))}
    (settles : reply ≠ .ok none) : reply.mapError ResolveError.provider ≠ .ok none := by
  rcases reply with error | _ | found
  · exact nofun
  · exact absurd rfl settles
  · exact nofun

theorem resolveSeen_of_settled (indirect : resolver.AllIndirect) (provided : resolver.HasProvider)
    {misses : Nat} {reply : Except ProviderError (Option (Params kind))}
    {others : List (Except ProviderError (Option (Params kind)))} (settles : reply ≠ .ok none)
    (replies : (Question.one correlation).replies resolver.lookups state =
      List.replicate misses (.ok none) ++ reply :: others) :
    resolver.resolveSeen correlation state =
      (reply.mapError .provider,
        (Question.one correlation).trace (resolver.lookups.take (misses + 1)) state) := by
  have noted : (Action.inTurn (Question.one correlation).runNoted resolver.lookups (state, [])).1 =
      List.replicate misses (.ok none) ++
        reply.mapError .provider :: others.map (Except.mapError .provider) := by
    rw [Question.inTurn_runNoted, replies, List.map_append, List.map_replicate]
    rfl
  rw [resolveSeen_of_provided indirect provided,
    Action.outcome_search_of_settled (mapError_ne_none settles) noted, Question.inTurn_runNoted]

theorem resolveSeen_of_missed (indirect : resolver.AllIndirect) (provided : resolver.HasProvider)
    (misses : ∀ reply ∈ (Question.one correlation).replies resolver.lookups state,
      reply = .ok none) :
    resolver.resolveSeen correlation state =
      (.ok none, (Question.one correlation).trace resolver.lookups state) := by
  have all : (Question.one correlation).replies resolver.lookups state =
      List.replicate resolver.lookups.length (.ok none) :=
    List.eq_replicate_iff.mpr ⟨Action.length_inTurn, misses⟩
  have noted : (Action.inTurn (Question.one correlation).runNoted resolver.lookups (state, [])).1 =
      List.replicate resolver.lookups.length (.ok none) := by
    rw [Question.inTurn_runNoted, all, List.map_replicate]
    rfl
  rw [resolveSeen_of_provided indirect provided, Action.outcome_search_of_misses noted,
    Question.inTurn_runNoted]

theorem resolveSeen_not_found_iff (indirect : resolver.AllIndirect)
    (provided : resolver.HasProvider) :
    (resolver.resolveSeen correlation state).1 = .ok none ↔
      ∀ reply ∈ (Question.one correlation).replies resolver.lookups state, reply = .ok none := by
  constructor
  · intro missed
    rcases Action.replies_cases ((Question.one correlation).replies resolver.lookups state) with
      misses | ⟨misses, reply, others, settles, split⟩
    · exact (List.eq_replicate_iff.mp misses).2
    · rw [resolveSeen_of_settled indirect provided settles split] at missed
      exact absurd missed (mapError_ne_none settles)
  · intro misses
    rw [resolveSeen_of_missed indirect provided misses]

theorem resolve_unnoted :
    (resolver.resolve correlation).outcome state =
      ((resolver.resolveSeen correlation state).1,
        (resolver.resolveSeen correlation state).2.1) := by
  rcases resolver.items_cases with
    ⟨params, first⟩ | empty | ⟨some, indirect, none⟩ | ⟨indirect, provided⟩
  · rw [resolveSeen_of_direct first, resolver.resolve_of_direct correlation first,
      Action.outcome_pure]
  · rw [resolveSeen_of_empty empty, resolver.resolve_of_empty correlation empty,
      Action.outcome_pure]
  · rw [resolveSeen_of_missing some indirect none,
      resolver.resolve_of_missing correlation some indirect none, Action.outcome_throw]
  · obtain ⟨calls, noted⟩ := Action.outcome_search_noted (Question.one correlation).call
      (Question.one correlation).run resolver.lookups state []
    rw [resolver.resolve_of_provided correlation indirect provided,
      resolveSeen_of_provided indirect provided]
    unfold Question.runNoted
    rw [noted]

end Seen

/-- What a resolver does to find the first usable parameters. The lookups are in the
order of the items and then of the references, which are told apart by their places. -/
structure ResolvesInOrder (resolver : Resolver σ kind) (correlation : String) (state : σ) :
    Prop where
  direct (params : Params kind) : resolver.items.find? (·.IsDirect) = some params →
    resolver.resolveSeen correlation state = (.ok (some params), state, [])
  empty : resolver.items = [] → resolver.resolveSeen correlation state = (.ok none, state, [])
  missing : resolver.items ≠ [] → resolver.AllIndirect → ¬ resolver.HasProvider →
    resolver.resolveSeen correlation state =
      (.error (.missingProvider resolver.locator), state, [])
  ascending : resolver.attached.Pairwise fun earlier later => earlier.place < later.place
  asked : resolver.AllIndirect → resolver.HasProvider →
    (∃ (misses : Nat) (params : Params kind)
        (others : List (Except ProviderError (Option (Params kind)))),
      (Question.one correlation).replies resolver.lookups state =
          List.replicate misses (.ok none) ++ .ok (some params) :: others ∧
        resolver.resolveSeen correlation state =
          (.ok (some params),
            (Question.one correlation).trace (resolver.lookups.take (misses + 1)) state)) ∨
    (∃ (misses : Nat) (error : ProviderError)
        (others : List (Except ProviderError (Option (Params kind)))),
      (Question.one correlation).replies resolver.lookups state =
          List.replicate misses (.ok none) ++ .error error :: others ∧
        resolver.resolveSeen correlation state =
          (.error (.provider error),
            (Question.one correlation).trace (resolver.lookups.take (misses + 1)) state)) ∨
    (∀ reply ∈ (Question.one correlation).replies resolver.lookups state, reply = .ok none) ∧
      resolver.resolveSeen correlation state =
        (.ok none, (Question.one correlation).trace resolver.lookups state)
  notFound : resolver.AllIndirect → resolver.HasProvider →
    ((resolver.resolveSeen correlation state).1 = .ok none ↔
      ∀ reply ∈ (Question.one correlation).replies resolver.lookups state, reply = .ok none)
  unnoted : (resolver.resolve correlation).outcome state =
    ((resolver.resolveSeen correlation state).1, (resolver.resolveSeen correlation state).2.1)

/-- A resolver makes its lookups in their order up to the first that is answered or
fails, and makes no call if it has a direct item or nothing to look up. -/
theorem resolvesInOrder (resolver : Resolver σ kind) (correlation : String) (state : σ) :
    ResolvesInOrder resolver correlation state := by
  constructor
  case direct => exact fun _ => resolveSeen_of_direct
  case empty => exact resolveSeen_of_empty
  case missing => exact resolveSeen_of_missing
  case ascending => exact resolver.attached_ascending
  case asked =>
    intro indirect provided
    rcases Action.replies_cases ((Question.one correlation).replies resolver.lookups state) with
      misses | ⟨misses, reply, others, settles, split⟩
    · have allMissed := (List.eq_replicate_iff.mp misses).2
      exact .inr (.inr ⟨allMissed, resolveSeen_of_missed indirect provided allMissed⟩)
    · have seen := resolveSeen_of_settled indirect provided settles split
      rcases reply with error | _ | found
      · exact .inr (.inl ⟨misses, error, others, split, seen⟩)
      · exact absurd rfl settles
      · exact .inl ⟨misses, found, others, split, seen⟩
  case notFound => exact resolveSeen_not_found_iff
  case unnoted => exact resolve_unnoted

/-- The third of four lookups is the first that is answered, and the fourth is not made. -/
theorem resolvesInOrder_late : ResolvesInOrder late "id" 0 ∧ late.AllIndirect ∧
    late.HasProvider ∧
    (late.resolveSeen "id" 0).1 = .ok (some ⟨.empty⟩) ∧
    (late.resolveSeen "id" 0).2.2 =
      [⟨2, .resolveOne "id" "x"⟩, ⟨3, .resolveOne "id" "x"⟩, ⟨2, .resolveOne "id" "y"⟩] := by
  refine ⟨resolvesInOrder late "id" 0, ?_, hasProvider_late, rfl, by decide +kernel⟩
  unfold AllIndirect
  decide +kernel

end Provision.Resolver

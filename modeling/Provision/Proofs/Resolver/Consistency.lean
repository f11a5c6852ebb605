import Provision.Proofs.Provider.Shared
import Provision.Proofs.Resolver.Resolve
import Provision.Proofs.Resolver.ResolveAll

/-! The first answer of a resolver beside all of its answers. The two come from separate
scans: one stops at a direct item wherever it stands, and else at the first lookup with an
answer, and the other takes the direct items out and joins all lookups. They agree as
long as each provider, asked for one answer, gives the first of those that it gives when
asked for all. -/

set_option autoImplicit false

namespace Provision.Resolver

variable {σ : Type} {kind : ParamsKind} {resolver : Resolver σ kind} {correlation : String}

/-- Of two runs, one asking the providers of a resolver for one answer and the other for
all, each lookup gives the first of some list in the one and that list in the other. The
lookups may change the states of the runs, and differently, so what has to be kept is a
relation between these. -/
def LookupsAgree (resolver : Resolver σ kind) (correlation : String) (left right : σ) : Prop :=
  ∃ Related : σ → σ → Prop, Related left right ∧
    ∀ left right, Related left right → ∀ provider ∈ resolver.providers, ∀ key,
      ∃ (found : List (Params kind)) (left' right' : σ),
        (provider.resolveOne correlation key).outcome left = (.ok found.head?, left') ∧
        (provider.resolveAll correlation key).outcome right = (.ok found, right') ∧
        Related left' right'

section Agreement

theorem LookupsAgree.ask {left right : σ} (agree : resolver.LookupsAgree correlation left right)
    {provider : Provider σ kind} (provides : provider ∈ resolver.providers) (key : String) :
    ∃ (found : List (Params kind)) (left' right' : σ),
      (provider.resolveOne correlation key).outcome left = (.ok found.head?, left') ∧
      (provider.resolveAll correlation key).outcome right = (.ok found, right') ∧
      resolver.LookupsAgree correlation left' right' := by
  obtain ⟨Related, related, step⟩ := agree
  obtain ⟨found, left', right', one, all, kept⟩ := step left right related provider provides key
  exact ⟨found, left', right', one, all, Related, kept, step⟩

/-- Lookups agree if they change nothing and each gives the first of all answers. -/
theorem lookupsAgree_of_unchanged
    (answers : ∀ provider ∈ resolver.providers, ∀ key state, ∃ found : List (Params kind),
      (provider.resolveOne correlation key).outcome state = (.ok found.head?, state) ∧
        (provider.resolveAll correlation key).outcome state = (.ok found, state)) (state : σ) :
    resolver.LookupsAgree correlation state state := by
  refine ⟨Eq, rfl, ?_⟩
  rintro left _ rfl provider provides key
  obtain ⟨found, one, all⟩ := answers provider provides key left
  exact ⟨found, left, left, one, all, rfl⟩

/-- Providers in memory agree whatever they hold. -/
theorem lookupsAgree_of_memories {parts : List (Part σ (MemoryProvider kind))}
    (memories : resolver.providers = parts.map MemoryProvider.within) (state : σ) :
    resolver.LookupsAgree correlation state state := by
  apply lookupsAgree_of_unchanged
  intro provider provides key state
  rw [memories] at provides
  obtain ⟨part, -, rfl⟩ := List.mem_map.mp provides
  exact ⟨(part.get state).resolveAll key,
    MemoryProvider.outcome_resolveOne_within part correlation key state,
    MemoryProvider.outcome_resolveAll_within part correlation key state⟩

theorem provider_mem_of_mem_lookups {lookup : Lookup σ kind} (wanted : lookup ∈ resolver.lookups) :
    lookup.provider ∈ resolver.providers := by
  rw [lookups_eq] at wanted
  obtain ⟨key, -, member⟩ := List.mem_flatMap.mp wanted
  obtain ⟨found, attached, rfl⟩ := List.mem_map.mp member
  rw [providers_eq]
  exact List.mem_map_of_mem attached

theorem LookupsAgree.replies {left right : σ} (agree : resolver.LookupsAgree correlation left right)
    {lookups : List (Lookup σ kind)}
    (provided : ∀ lookup ∈ lookups, lookup.provider ∈ resolver.providers) :
    ∃ answers : List (List (Params kind)),
      (Question.one correlation).replies lookups left = answers.map (.ok ·.head?) ∧
        (Question.all correlation).replies lookups right = answers.map .ok := by
  induction lookups generalizing left right with
  | nil => exact ⟨[], rfl, rfl⟩
  | cons lookup rest ih =>
    obtain ⟨found, left', right', one, all, agree'⟩ :=
      agree.ask (provided lookup List.mem_cons_self) lookup.key
    obtain ⟨answers, restOne, restAll⟩ :=
      ih agree' fun other member => provided other (List.mem_cons_of_mem _ member)
    refine ⟨found :: answers, ?_, ?_⟩
    · rw [List.map_cons, ← restOne]
      simp only [Question.replies, Question.one, Action.inTurn_cons, one]
    · rw [List.map_cons, ← restAll]
      simp only [Question.replies, Question.all, Action.inTurn_cons, all]

/-- The search gives the first element of what the collection finds. -/
theorem LookupsAgree.search {left right : σ} (agree : resolver.LookupsAgree correlation left right) :
    ∃ answers : List (List (Params kind)),
      ((Action.search (Question.one correlation).run resolver.lookups).outcome left).1 =
          .ok answers.flatten.head? ∧
        (Action.outcome (resolver.lookups.mapM (Question.all correlation).run) right).1 =
          .ok answers := by
  obtain ⟨answers, one, all⟩ := agree.replies fun _ => provider_mem_of_mem_lookups
  have oneRun : (Action.inTurn (Question.one correlation).run resolver.lookups left).1 =
      (answers.map List.head?).map .ok := by
    rw [Question.inTurn_run, one, List.map_map, List.map_map]
    rfl
  have allRun : (Action.inTurn (Question.all correlation).run resolver.lookups right).1 =
      answers.map .ok := by
    rw [Question.inTurn_run, all, List.map_map]
    rfl
  refine ⟨answers, ?_, ?_⟩
  · rw [Action.outcome_search_of_ok oneRun, List.findSome?_map, List.head?_flatten]
    rfl
  · rw [Action.outcome_mapM_of_ok allRun]

end Agreement

section Answers

variable {left right : σ}

theorem direct_prefix_of_resolveAll {found : List (Params kind)}
    (all : ((resolver.resolveAll correlation).outcome right).1 = .ok found) :
    ∃ rest, found = resolver.items.filter (·.IsDirect) ++ rest := by
  unfold resolveAll at all
  rw [bind_pure_comp, Action.outcome_map, direct_eq_filter] at all
  cases looked : ((resolver.allOf correlation resolver.lookupKeys).outcome right).1 with
  | error error => simp [looked, Except.map] at all
  | ok rest =>
    simp only [looked, Except.map, Except.ok.injEq] at all
    exact ⟨rest, all.symm⟩

theorem LookupsAgree.resolve_of_resolveAll
    (agree : resolver.LookupsAgree correlation left right) {found : List (Params kind)}
    (all : ((resolver.resolveAll correlation).outcome right).1 = .ok found) :
    ((resolver.resolve correlation).outcome left).1 = .ok found.head? := by
  rcases resolver.items_cases with
    ⟨params, first⟩ | empty | ⟨some, indirect, none⟩ | ⟨indirect, provided⟩
  · obtain ⟨rest, rfl⟩ := direct_prefix_of_resolveAll all
    rw [resolver.resolve_of_direct correlation first, Action.outcome_pure, List.head?_append,
      List.head?_filter, first]
    rfl
  · have direct : ∀ params ∈ resolver.items, params.IsDirect := by simp [empty]
    rw [resolver.resolveAll_of_direct correlation direct, empty] at all
    cases all
    rw [resolver.resolve_of_empty correlation empty, Action.outcome_pure]
    rfl
  · obtain ⟨params, member⟩ := List.exists_mem_of_ne_nil _ some
    rw [resolver.resolveAll_of_missing correlation ⟨params, member, indirect params member⟩ none]
      at all
    cases all
  · obtain ⟨answers, one, all'⟩ := agree.search
    have noDirect : resolver.items.filter (·.IsDirect) = [] := by
      rw [← direct_eq_filter, direct_eq_nil_iff]
      exact indirect
    rw [resolver.resolveAll_of_provided correlation provided, Action.outcome_map, all',
      noDirect] at all
    cases all
    rw [resolver.resolve_of_provided correlation indirect provided, one]
    rfl

theorem LookupsAgree.resolveAll_of_failure
    (agree : resolver.LookupsAgree correlation left right) {error : ResolveError}
    (failed : ((resolver.resolve correlation).outcome left).1 = .error error) :
    ((resolver.resolveAll correlation).outcome right).1 = .error error := by
  rcases resolver.items_cases with
    ⟨params, first⟩ | empty | ⟨some, indirect, none⟩ | ⟨indirect, provided⟩
  · rw [resolver.resolve_of_direct correlation first] at failed
    cases failed
  · rw [resolver.resolve_of_empty correlation empty] at failed
    cases failed
  · obtain ⟨params, member⟩ := List.exists_mem_of_ne_nil _ some
    rw [resolver.resolve_of_missing correlation some indirect none] at failed
    rw [resolver.resolveAll_of_missing correlation ⟨params, member, indirect params member⟩ none]
    cases failed
    rfl
  · -- with providers that all answer there is no failure
    obtain ⟨answers, one, -⟩ := agree.search
    rw [resolver.resolve_of_provided correlation indirect provided, one] at failed
    cases failed

end Answers

/-- What the first answer of a resolver has to do with all of its answers. -/
structure FirstOfAll (resolver : Resolver σ kind) (correlation : String) (state : σ) : Prop where
  first (found : List (Params kind)) :
    ((resolver.resolveAll correlation).outcome state).1 = .ok found →
      ((resolver.resolve correlation).outcome state).1 = .ok found.head?
  failure (error : ResolveError) :
    ((resolver.resolve correlation).outcome state).1 = .error error →
      ((resolver.resolveAll correlation).outcome state).1 = .error error

/-- If lookups agree, the search finds the first of all answers, and the collection fails
as the search does. With providers in memory they agree in every state. -/
theorem resolvesFirstOfAll (resolver : Resolver σ kind) (correlation : String) (state : σ) :
    (resolver.LookupsAgree correlation state state → FirstOfAll resolver correlation state) ∧
      ∀ parts : List (Part σ (MemoryProvider kind)),
        resolver.providers = parts.map MemoryProvider.within →
          resolver.LookupsAgree correlation state state := by
  constructor
  · intro agree
    constructor
    case first => exact fun _ => agree.resolve_of_resolveAll
    case failure => exact fun _ => agree.resolveAll_of_failure
  · intro parts memories
    exact lookupsAgree_of_memories memories state

/-! ## Two providers in memory -/

/-- Two providers in memory under descriptors of their own, and a text between them. -/
def berthReferences :
    References (Component (MemoryProvider .connection × MemoryProvider .connection)) :=
  ⟨[⟨⟨"wharf", "discovery", "memory", "near", "1.0"⟩, .provider .connection,
      MemoryProvider.within (.fst _ _)⟩,
    ⟨⟨"wharf", "discovery", "label", "near", "1.0"⟩, .text, "near"⟩,
    ⟨⟨"wharf", "discovery", "memory", "far", "1.0"⟩, .provider .connection,
      MemoryProvider.within (.snd _ _)⟩]⟩

/-- Looks up two keys with the providers side by side. -/
def berths : Resolver (MemoryProvider .connection × MemoryProvider .connection) .connection where
  items := [⟨Bag.empty.put "discovery_key" "x"⟩, ⟨Bag.empty.put "discovery_key" "y"⟩]
  references := some berthReferences
  locator := ParamsKind.connection.providerLocator

theorem providers_berths : berths.providers =
    [Part.fst _ _, Part.snd _ _].map MemoryProvider.within := rfl

/-- The first key is unknown to both providers, and the second one to the nearer of them. -/
def berthsHeld : MemoryProvider .connection × MemoryProvider .connection :=
  (.empty, MemoryProvider.empty.register "y" ⟨.empty⟩)

theorem resolvesFirstOfAll_berths : FirstOfAll berths "id" berthsHeld ∧
    ((berths.resolveAll "id").outcome berthsHeld).1 = .ok [⟨.empty⟩] ∧
    ((berths.resolve "id").outcome berthsHeld).1 = .ok (some ⟨.empty⟩) := by
  have first : FirstOfAll berths "id" berthsHeld :=
    (resolvesFirstOfAll berths "id" berthsHeld).1
      ((resolvesFirstOfAll berths "id" berthsHeld).2 _ providers_berths)
  have all : ((berths.resolveAll "id").outcome berthsHeld).1 = .ok [⟨.empty⟩] := rfl
  exact ⟨first, all, first.first _ all⟩

end Provision.Resolver

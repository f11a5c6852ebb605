import Provision.Proofs.Provider.Shared
import Provision.Proofs.Resolver.Questions
import Provision.Provider.Exchange

/-! The registration of parameters with all attached providers: what a resolver answers,
which items it has afterwards, and which calls it makes. The first failure ends it, and
nothing is taken back: providers that were called before keep the parameters, and
neither the resolver nor a provider that comes later gets them. -/

set_option autoImplicit false

namespace Provision

variable {σ : Type} {kind : ParamsKind}

namespace Provider

/-- A key has some copies of the parameters more, after those that it had, and no other key
has anything else than before. -/
def Gains (key : String) (params : Params kind) (copies : Nat)
    (before after : String → List (Params kind)) : Prop :=
  ∀ other, after other =
    before other ++ if key = other then List.replicate copies params else []

/-- A provider registers at one of several places where parameters are held, or fails and
leaves all of them alone. When it fails, and what else of the state it changes, is open. -/
structure RegistersIn {ι : Type} [DecidableEq ι] (held : ι → σ → String → List (Params kind))
    (own : ι) (provider : Provider σ kind) : Prop where
  kept {correlation key : String} {params answer : Params kind} {state left : σ} :
    (provider.register correlation key params).outcome state = (.ok answer, left) →
    ∀ index, Gains key params (if own = index then 1 else 0) (held index state) (held index left)
  failed {correlation key : String} {params : Params kind} {error : ProviderError}
    {state left : σ} :
    (provider.register correlation key params).outcome state = (.error error, left) →
    ∀ index, held index left = held index state

section Gains

variable {key : String} {params : Params kind} {copies more : Nat}
  {before between after : String → List (Params kind)}

theorem Gains.of_eq (same : after = before) : Gains key params 0 before after := by
  intro other
  rw [same, List.replicate_zero, ite_self, List.append_nil]

theorem Gains.trans (first : Gains key params copies before between)
    (second : Gains key params more between after) :
    Gains key params (copies + more) before after := by
  intro other
  rw [second other, first other, List.append_assoc]
  by_cases same : key = other
  · simp only [if_pos same, List.replicate_append_replicate]
  · simp only [if_neg same, List.append_nil]

end Gains

end Provider

/-! ## Providers in memory -/

namespace MemoryProvider

theorem gains_register (provider : MemoryProvider kind) (key : String) (params : Params kind) :
    Provider.Gains key params 1 provider.resolveAll (provider.register key params).resolveAll := by
  intro other
  rw [resolveAll_register]
  by_cases same : key = other
  · rw [if_pos same, if_pos same, List.replicate_one]
  · rw [if_neg same, if_neg same, List.append_nil]

/-- Providers in memory on parts of a state that are apart register each in its own part. -/
theorem within_registersIn {ι : Type} [DecidableEq ι] {part : ι → Part σ (MemoryProvider kind)}
    (apart : ∀ first second, first ≠ second → (part first).Apart (part second)) (own : ι) :
    (within (part own)).RegistersIn
      (fun index state => ((part index).get state).resolveAll) own := by
  constructor
  case kept =>
    intro correlation key params answer state left accepted index
    rw [outcome_register_within] at accepted
    cases accepted
    by_cases same : own = index
    · subst same
      rw [if_pos rfl, Part.get_set]
      exact gains_register _ key params
    · rw [if_neg same, (apart own index same).get_second]
      exact .of_eq rfl
  case failed =>
    intro correlation key params error state left refused
    rw [outcome_register_within] at refused
    cases refused

end MemoryProvider

/-! ## Providers of an exchange -/

namespace Exchange

variable {exchange : Exchange kind} {call : ProviderCall} {name other : String}

def called (exchange : Exchange kind) (call : ProviderCall) : Exchange kind :=
  { exchange with calls := exchange.calls ++ [call] }

theorem outcome_record :
    (record call).outcome exchange =
      ((match exchange.faults.find? (·.appliesTo call) with
        | some fault => .error fault.error
        | none => .ok ()), exchange.called call) := by
  unfold record
  rw [Action.outcome_bind_ok (Action.outcome_modify _ _),
    Action.outcome_bind_ok (Action.outcome_get _)]
  change Action.outcome (match exchange.faults.find? (·.appliesTo call) with
    | some fault => throw fault.error
    | none => pure ()) (exchange.called call) = _
  cases exchange.faults.find? (·.appliesTo call) <;> rfl

theorem member_setMember {provider : MemoryProvider kind} :
    (exchange.setMember name provider).member other =
      if name = other then provider else exchange.member other := by
  unfold setMember member
  by_cases same : name = other
  · simp [same]
  · simp [Std.ExtTreeMap.getElem?_insert, same]

theorem outcome_register {correlation key : String} {params : Params kind} :
    ((provider name).register correlation key params).outcome exchange =
      match exchange.faults.find? (·.appliesTo ⟨name, .register, correlation, key⟩) with
      | some fault =>
        (.error fault.error, exchange.called ⟨name, .register, correlation, key⟩)
      | none =>
        (.ok params, (exchange.called ⟨name, .register, correlation, key⟩).setMember name
          ((exchange.member name).register key params)) := by
  refine (Action.outcome_bind _ _ _).trans ?_
  rw [outcome_record]
  cases exchange.faults.find? (·.appliesTo ⟨name, .register, correlation, key⟩) <;> rfl

/-- Whatever faults are set, the providers of an exchange register in its members. -/
theorem provider_registersIn (name : String) :
    (provider name : Provider (Exchange kind) kind).RegistersIn
      (fun name exchange => (exchange.member name).resolveAll) name := by
  constructor
  case kept =>
    intro correlation key params answer exchange left accepted index
    rw [outcome_register] at accepted
    split at accepted
    · cases accepted
    · cases accepted
      rw [member_setMember]
      by_cases own : name = index
      · subst own
        rw [if_pos rfl, if_pos rfl]
        exact MemoryProvider.gains_register _ key params
      · rw [if_neg own, if_neg own]
        exact .of_eq rfl
  case failed =>
    intro correlation key params error exchange left refused index
    rw [outcome_register] at refused
    split at refused
    · cases refused
      rfl
    · cases refused

end Exchange

namespace Resolver

def Question.register (correlation : String) (params : Params kind) :
    Question σ kind (Params kind) where
  ask lookup := lookup.provider.register correlation lookup.key params
  call lookup := ⟨lookup.place, .register correlation lookup.key params.bag⟩

/-- The lookups of one key, with each attached provider in order. -/
def lookupsOf (resolver : Resolver σ kind) (key : String) : List (Lookup σ kind) :=
  resolver.attached.map (Attached.lookup key)

theorem length_lookupsOf {resolver : Resolver σ kind} {key : String} :
    (resolver.lookupsOf key).length = resolver.attached.length :=
  List.length_map _

theorem lookupsOf_noted {resolver : Resolver σ kind} {key : String} :
    resolver.noted.lookupsOf key = (resolver.lookupsOf key).map Lookup.noted := by
  rw [lookupsOf, lookupsOf, attached_noted, List.map_map, List.map_map]
  rfl

/-- What comes of a registration: the answer, the items that the resolver has after it, and
the state and the calls. -/
structure Registration (σ : Type) (kind : ParamsKind) where
  answer : Except ResolveError Bool
  items : List (Params kind)
  trace : σ × List ReferenceCall

/-- A registration with its calls. -/
def registerSeen (resolver : Resolver σ kind) (correlation : String) (params : Params kind)
    (state : σ) : Registration σ kind :=
  let (answer, after, trace) := (register correlation params).outcome (resolver.noted, state, [])
  ⟨answer, after.items, trace⟩

/-! ## The registration as one pass over the attached providers -/

theorem registerWith_eq_mapM (correlation key : String) (params : Params kind)
    (found : List (Attached σ kind)) :
    registerWith correlation key params (found.map Attached.provider) =
      (fun _ => ()) <$> (found.map (Attached.lookup key)).mapM
        (Question.register correlation params).run := by
  induction found with
  | nil => simp [registerWith]
  | cons first rest ih =>
    simp only [List.map_cons, registerWith, ih, List.mapM_cons, map_bind, bind_pure_comp,
      Functor.map_map]
    rfl

section Pass

variable {resolver : Resolver σ kind} {correlation key : String} {params : Params kind} {state : σ}

theorem outcome_register_of_direct (direct : params.IsDirect) :
    (register correlation params).outcome (resolver, state) = (.ok false, resolver, state) := by
  unfold register
  rw [Params.indirection?_eq_none_iff.mpr direct]
  rfl

/-- A resolver has the parameters once all providers have them, and not before. -/
theorem outcome_register_of_indirect (indirect : params.indirection? = some key) :
    (register correlation params).outcome (resolver, state) =
      match (resolver.requireProviders >>= registerWith correlation key params).outcome state with
      | (.ok _, left) => (.ok true, resolver.add params, left)
      | (.error error, left) => (.error error, resolver, left) := by
  unfold register
  rw [indirect]
  simp only
  rw [Action.outcome_bind_ok (Action.outcome_get _), Action.outcome_bind, Action.outcome_beside]
  rcases (resolver.requireProviders >>= registerWith correlation key params).outcome state with
    ⟨_ | _, left⟩ <;> rfl

theorem outcome_register_of_missing (indirect : params.indirection? = some key)
    (none : ¬ resolver.HasProvider) :
    (register correlation params).outcome (resolver, state) =
      (.error (.missingProvider resolver.locator), resolver, state) := by
  rw [outcome_register_of_indirect indirect, requireProviders_of_none none]
  rfl

theorem outcome_register_of_provided (indirect : params.indirection? = some key)
    (provided : resolver.HasProvider) :
    (register correlation params).outcome (resolver, state) =
      match ((resolver.lookupsOf key).mapM (Question.register correlation params).run).outcome
        state with
      | (.ok _, left) => (.ok true, resolver.add params, left)
      | (.error error, left) => (.error error, resolver, left) := by
  rw [outcome_register_of_indirect indirect, requireProviders_of_some provided, pure_bind,
    registerWith_eq_mapM, Action.outcome_map, lookupsOf]
  rcases ((resolver.attached.map (Attached.lookup key)).mapM
    (Question.register correlation params).run).outcome state with ⟨_ | answers, left⟩ <;> rfl

end Pass

/-! ## What is seen of it -/

section Seen

variable {resolver : Resolver σ kind} {correlation key : String} {params : Params kind} {state : σ}

theorem registerSeen_of_direct (direct : params.IsDirect) :
    resolver.registerSeen correlation params state = ⟨.ok false, resolver.items, (state, [])⟩ := by
  unfold registerSeen
  rw [outcome_register_of_direct direct]
  rfl

theorem registerSeen_of_missing (indirect : params.indirection? = some key)
    (none : ¬ resolver.HasProvider) :
    resolver.registerSeen correlation params state =
      ⟨.error (.missingProvider resolver.locator), resolver.items, (state, [])⟩ := by
  unfold registerSeen
  rw [outcome_register_of_missing indirect (mt hasProvider_noted.mp none)]
  rfl

theorem lookups_mapM_noted :
    (resolver.noted.lookupsOf key).mapM (Question.register correlation params).run =
      (resolver.lookupsOf key).mapM (Question.register correlation params).runNoted := by
  rw [lookupsOf_noted, List.mapM_map]
  rfl

theorem registerSeen_of_provided (indirect : params.indirection? = some key)
    (provided : resolver.HasProvider) :
    resolver.registerSeen correlation params state =
      match ((resolver.lookupsOf key).mapM (Question.register correlation params).runNoted).outcome
        (state, []) with
      | (.ok _, trace) => ⟨.ok true, resolver.items ++ [params], trace⟩
      | (.error error, trace) => ⟨.error error, resolver.items, trace⟩ := by
  unfold registerSeen
  rw [outcome_register_of_provided indirect (hasProvider_noted.mpr provided), lookups_mapM_noted]
  rcases ((resolver.lookupsOf key).mapM (Question.register correlation params).runNoted).outcome
    (state, []) with ⟨_ | answers, trace⟩ <;> rfl

theorem registerSeen_of_answers (indirect : params.indirection? = some key)
    (provided : resolver.HasProvider) {answers : List (Params kind)}
    (replies : (Question.register correlation params).replies (resolver.lookupsOf key) state =
      answers.map .ok) :
    resolver.registerSeen correlation params state =
      ⟨.ok true, resolver.items ++ [params],
        (Question.register correlation params).trace (resolver.lookupsOf key) state⟩ := by
  rw [registerSeen_of_provided indirect provided, Question.outcome_pass_of_answers replies]

theorem registerSeen_of_failure (indirect : params.indirection? = some key)
    (provided : resolver.HasProvider) {done : List (Params kind)} {error : ProviderError}
    {others : List (Except ProviderError (Params kind))}
    (replies : (Question.register correlation params).replies (resolver.lookupsOf key) state =
      done.map .ok ++ .error error :: others) :
    resolver.registerSeen correlation params state =
      ⟨.error (.provider error), resolver.items, (Question.register correlation params).trace
        ((resolver.lookupsOf key).take (done.length + 1)) state⟩ := by
  rw [registerSeen_of_provided indirect provided, Question.outcome_pass_of_failure replies]

/-- Without notes the answer is the same, and items are all that the resolver has changed. -/
theorem register_unnoted :
    (register correlation params).outcome (resolver, state) =
      ((resolver.registerSeen correlation params state).answer,
        { resolver with items := (resolver.registerSeen correlation params state).items },
        (resolver.registerSeen correlation params state).trace.1) := by
  cases wanted : params.indirection? with
  | none =>
    have direct := Params.indirection?_eq_none_iff.mp wanted
    rw [registerSeen_of_direct direct, outcome_register_of_direct direct]
  | some key =>
    by_cases provided : resolver.HasProvider
    · obtain ⟨calls, noted⟩ := Action.outcome_mapM_noted (Question.register correlation params).call
        (Question.register correlation params).run (resolver.lookupsOf key) state []
      rw [outcome_register_of_provided wanted provided, registerSeen_of_provided wanted provided]
      unfold Question.runNoted
      rw [noted]
      rcases ((resolver.lookupsOf key).mapM
        (Question.register correlation params).run).outcome state with ⟨_ | answers, left⟩ <;> rfl
    · rw [registerSeen_of_missing wanted provided, outcome_register_of_missing wanted provided]

end Seen

/-! ## What providers keep of it -/

/-- Wherever the attached providers register, each place has gained the parameters once for
each of the taken ones that registers there, and nothing else. -/
def KeptBy (resolver : Resolver σ kind) (taken : List (Attached σ kind)) (key : String)
    (params : Params kind) (before after : σ) : Prop :=
  ∀ (ι : Type) [DecidableEq ι] (held : ι → σ → String → List (Params kind))
    (owner : Attached σ kind → ι),
    (∀ found ∈ resolver.attached, found.provider.RegistersIn held (owner found)) →
      ∀ index, Provider.Gains key params (taken.countP fun found => owner found = index)
        (held index before) (held index after)

section Kept

variable {ι : Type} [DecidableEq ι] {held : ι → σ → String → List (Params kind)}
  {owner : Attached σ kind → ι} {correlation key : String} {params : Params kind}
  {found : List (Attached σ kind)} {done : List (Params kind)}
  {others : List (Except ProviderError (Params kind))} {state : σ}

/-- Providers keep the parameters up to the first that fails, which is the last one called. -/
theorem gains_trace (index : ι)
    (registers : ∀ one ∈ found, one.provider.RegistersIn held (owner one))
    (replies : (Question.register correlation params).replies
      (found.map (Attached.lookup key)) state = done.map .ok ++ others)
    (ends : others = [] ∨ ∃ error rest, others = .error error :: rest) :
    Provider.Gains key params ((found.take done.length).countP fun one => owner one = index)
      (held index state)
      (held index ((Question.register correlation params).trace
        ((found.take (done.length + 1)).map (Attached.lookup key)) state).1) := by
  induction found generalizing state done with
  | nil =>
    rw [List.take_nil, List.take_nil]
    exact .of_eq rfl
  | cons first rest ih =>
    have registersFirst := registers first List.mem_cons_self
    rcases asked : (first.provider.register correlation key params).outcome state with ⟨reply, left⟩
    have alsoAsked : ((Question.register correlation params).ask (first.lookup key)).outcome state =
      (reply, left) := asked
    simp only [Question.replies, Question.trace, List.map_cons, Action.inTurn_cons,
      alsoAsked] at replies ih ⊢
    cases done with
    | nil =>
      -- this provider is the first that fails, so it is the last one called and keeps nothing
      rcases ends with none | ⟨error, tail, failure⟩
      · simp [none] at replies
      · obtain ⟨rfl, -⟩ := List.cons.inj (replies.trans failure)
        simp only [List.length_nil, List.take_succ_cons, List.take_zero, List.map_cons,
          List.map_nil, Action.inTurn_cons, Action.inTurn_nil, alsoAsked]
        exact .of_eq (registersFirst.failed asked index)
    | cons answer done =>
      obtain ⟨rfl, restReplies⟩ := List.cons.inj replies
      simp only [List.length_cons, List.take_succ_cons, List.map_cons, Action.inTurn_cons,
        alsoAsked]
      have registersRest : ∀ one ∈ rest, one.provider.RegistersIn held (owner one) :=
        fun one member => registers one (List.mem_cons_of_mem _ member)
      have gained := (registersFirst.kept asked index).trans (ih registersRest restReplies)
      rw [List.countP_cons, Nat.add_comm]
      simpa only [decide_eq_true_eq] using gained

theorem keptBy_inTurn {resolver : Resolver σ kind}
    (replies : (Question.register correlation params).replies (resolver.lookupsOf key) state =
      done.map .ok ++ others)
    (ends : others = [] ∨ ∃ error rest, others = .error error :: rest) :
    KeptBy resolver (resolver.attached.take done.length) key params state
      ((Question.register correlation params).trace
        ((resolver.lookupsOf key).take (done.length + 1)) state).1 := by
  intro ι _ held owner registers index
  rw [lookupsOf, ← List.map_take]
  exact gains_trace index registers replies ends

end Kept

/-- What a resolver does to register parameters. The attached providers are called in the
order of their places, and the same provider is called at each of its places. -/
structure RegistersInOrder (resolver : Resolver σ kind) (correlation : String)
    (params : Params kind) (state : σ) : Prop where
  direct : params.IsDirect →
    resolver.registerSeen correlation params state = ⟨.ok false, resolver.items, (state, [])⟩
  missing : ¬ params.IsDirect → ¬ resolver.HasProvider →
    resolver.registerSeen correlation params state =
      ⟨.error (.missingProvider resolver.locator), resolver.items, (state, [])⟩
  ascending : resolver.attached.Pairwise fun earlier later => earlier.place < later.place
  asked (key : String) : params.bag.get? kind.indirectionKey = some key → key ≠ "" →
    resolver.HasProvider →
    (∃ answers : List (Params kind),
      (Question.register correlation params).replies (resolver.lookupsOf key) state =
          answers.map .ok ∧
        resolver.registerSeen correlation params state =
          ⟨.ok true, resolver.items ++ [params],
            (Question.register correlation params).trace (resolver.lookupsOf key) state⟩ ∧
        KeptBy resolver resolver.attached key params state
          (resolver.registerSeen correlation params state).trace.1) ∨
    ∃ (done : List (Params kind)) (error : ProviderError)
        (others : List (Except ProviderError (Params kind))),
      (Question.register correlation params).replies (resolver.lookupsOf key) state =
          done.map .ok ++ .error error :: others ∧
        resolver.registerSeen correlation params state =
          ⟨.error (.provider error), resolver.items, (Question.register correlation params).trace
            ((resolver.lookupsOf key).take (done.length + 1)) state⟩ ∧
        KeptBy resolver (resolver.attached.take done.length) key params state
          (resolver.registerSeen correlation params state).trace.1
  memories {ι : Type} [DecidableEq ι] (part : ι → Part σ (MemoryProvider kind)) (own : ι) :
    (∀ first second, first ≠ second → (part first).Apart (part second)) →
      (MemoryProvider.within (part own)).RegistersIn
        (fun index state => ((part index).get state).resolveAll) own
  unnoted : (register correlation params).outcome (resolver, state) =
    ((resolver.registerSeen correlation params state).answer,
      { resolver with items := (resolver.registerSeen correlation params state).items },
      (resolver.registerSeen correlation params state).trace.1)

/-- A resolver registers indirect parameters with the attached providers up to the first
that fails. It has them itself only if none does, and takes nothing back. -/
theorem registersInOrder (resolver : Resolver σ kind) (correlation : String)
    (params : Params kind) (state : σ) : RegistersInOrder resolver correlation params state := by
  constructor
  case direct => exact registerSeen_of_direct
  case missing =>
    intro indirect none
    cases wanted : params.indirection? with
    | none => exact absurd (Params.indirection?_eq_none_iff.mp wanted) indirect
    | some key => exact registerSeen_of_missing wanted none
  case ascending => exact resolver.attached_ascending
  case asked =>
    intro key held nonempty provided
    have indirect : params.indirection? = some key := by
      simp [Params.indirection?, Bag.nonEmpty?, held, nonempty]
    rcases Action.answers_cases ((Question.register correlation params).replies
      (resolver.lookupsOf key) state) with ⟨answers, replies⟩ | ⟨done, error, others, replies⟩
    · have all := registerSeen_of_answers indirect provided replies
      have length : answers.length = resolver.attached.length := by
        have same := congrArg List.length replies
        simpa [Question.replies, Action.length_inTurn, length_lookupsOf] using same.symm
      have kept := keptBy_inTurn (replies.trans (List.append_nil _).symm) (.inl rfl)
      have whole : (resolver.lookupsOf key).length ≤ resolver.attached.length + 1 :=
        Nat.le_succ_of_le (Nat.le_of_eq length_lookupsOf)
      rw [length, List.take_length, List.take_of_length_le whole] at kept
      exact .inl ⟨answers, replies, all, by rw [all]; exact kept⟩
    · have some := registerSeen_of_failure indirect provided replies
      have kept := keptBy_inTurn replies (.inr ⟨error, others, rfl⟩)
      exact .inr ⟨done, error, others, replies, some, by rw [some]; exact kept⟩
  case memories => exact fun _ own apart => MemoryProvider.within_registersIn apart own
  case unnoted => exact register_unnoted

/-- Asks one provider at two places, and after it one whose registrations fail. -/
def ferry : Resolver (Exchange .connection) .connection :=
  let descriptor : Descriptor := ⟨"ferry", "discovery", "exchange", "default", "1.0"⟩
  { items := [⟨Bag.empty.put "host" "ferry"⟩]
    references := some ⟨[⟨descriptor, .text, "dock"⟩,
      ⟨descriptor, .provider .connection, Exchange.provider "dock"⟩,
      ⟨descriptor, .provider .credential, .blank _ .credential⟩,
      ⟨descriptor, .provider .connection, Exchange.provider "dock"⟩,
      ⟨descriptor, .provider .connection, Exchange.provider "quay"⟩,
      ⟨descriptor, .provider .connection, Exchange.provider "pier"⟩]⟩
    locator := ParamsKind.connection.providerLocator }

def quayClosed : Exchange .connection :=
  Exchange.empty.addFaults [⟨"quay", .register, none, .unavailable "closed"⟩]

/-- Names the member that is called at each place of the ferry. -/
def ferryMember (found : Attached (Exchange .connection) .connection) : String :=
  if found.place < 4 then "dock" else if found.place = 4 then "quay" else "pier"

theorem attached_ferry : ferry.attached = [⟨1, Exchange.provider "dock"⟩,
    ⟨3, Exchange.provider "dock"⟩, ⟨4, Exchange.provider "quay"⟩, ⟨5, Exchange.provider "pier"⟩] :=
  rfl

theorem registersIn_ferry (found : Attached (Exchange .connection) .connection)
    (attached : found ∈ ferry.attached) :
    found.provider.RegistersIn (fun name exchange => (exchange.member name).resolveAll)
      (ferryMember found) := by
  simp only [attached_ferry, List.mem_cons, List.not_mem_nil, or_false] at attached
  rcases attached with rfl | rfl | rfl | rfl <;> exact Exchange.provider_registersIn _

def boarding : Params .connection := ⟨Bag.empty.put "discovery_key" "y"⟩

/-- The provider at two places has the parameters twice. The other two do not have them, and
neither has the resolver. -/
theorem registersInOrder_ferry :
    RegistersInOrder ferry "id" boarding quayClosed ∧ ferry.HasProvider ∧
    (ferry.registerSeen "id" boarding quayClosed).answer =
      .error (.provider (.unavailable "closed")) ∧
    (ferry.registerSeen "id" boarding quayClosed).items = ferry.items ∧
    (ferry.registerSeen "id" boarding quayClosed).trace.2 =
      [1, 3, 4].map (⟨·, .register "id" "y" boarding.bag⟩) ∧
    ∀ name, ((ferry.registerSeen "id" boarding quayClosed).trace.1.member name).resolveAll "y" =
      (quayClosed.member name).resolveAll "y" ++
        if name = "dock" then [boarding, boarding] else [] := by
  have inOrder := registersInOrder ferry "id" boarding quayClosed
  have provided : ferry.HasProvider := attached_ne_nil_iff.mp (by simp [attached_ferry])
  have answer : (ferry.registerSeen "id" boarding quayClosed).answer =
    .error (.provider (.unavailable "closed")) := by decide +kernel
  have calls : (ferry.registerSeen "id" boarding quayClosed).trace.2 =
    [1, 3, 4].map (⟨·, .register "id" "y" boarding.bag⟩) := by decide +kernel
  rcases inOrder.asked "y" (by decide +kernel) (by decide) provided with
    ⟨_, _, all, _⟩ | ⟨done, _, _, _, some, kept⟩
  · simp [all] at answer
  · have two : done.length = 2 := by
      have same : min done.length 3 = 2 := by
        simpa [some, Question.trace, lookupsOf, attached_ferry] using congrArg List.length calls
      omega
    refine ⟨inOrder, provided, answer, by rw [some], calls, ?_⟩
    intro name
    have gained := kept String (fun name exchange => (exchange.member name).resolveAll) ferryMember
      registersIn_ferry name "y"
    rw [two, attached_ferry] at gained
    refine gained.trans ?_
    by_cases own : name = "dock"
    · subst own
      rfl
    · simp [own, ferryMember, eq_comm]

end Resolver

end Provision

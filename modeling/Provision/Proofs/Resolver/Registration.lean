import Provision.Proofs.Resolver.Consistency
import Provision.Proofs.Resolver.Register

/-! Registering through one resolver and reading through another one that has the same
references and locator, or through the same one again. With providers in memory, on parts
of a state that are apart, the parameters are found under their key once for each
provider, after everything that was there before, and nothing else is found differently. -/

set_option autoImplicit false

namespace Provision.Resolver

variable {σ : Type} {kind : ParamsKind} {resolver : Resolver σ kind}
  {parts : List (Part σ (MemoryProvider kind))} {correlation key : String}
  {params : Params kind} {state : σ}

theorem providers_congr {first second : Resolver σ kind}
    (references : first.references = second.references) (locator : first.locator = second.locator) :
    first.providers = second.providers := by
  unfold providers
  rw [references, locator]

theorem mem_lookupKeys_iff :
    key ∈ resolver.lookupKeys ↔ ∃ item ∈ resolver.items, item.indirection? = some key := by
  simp [lookupKeys]

/-! ## A resolver that may have been given parameters -/

section Added

variable {before later : Resolver σ kind} (added : later = before ∨ later = before.add params)

include added

theorem providers_of_added : later.providers = before.providers := by
  rcases added with rfl | rfl
  · rfl
  · exact providers_congr rfl rfl

variable (indirect : params.indirection? = some key)

include indirect

theorem direct_of_added : later.direct = before.direct := by
  rcases added with rfl | rfl
  · rfl
  · simp [direct, add, Params.isIndirect, indirect]

theorem lookupKeys_of_added :
    later.lookupKeys = before.lookupKeys ∨ later.lookupKeys = before.lookupKeys ++ [key] := by
  rcases added with rfl | rfl
  · exact .inl rfl
  · exact .inr (by simp [lookupKeys, add, indirect])

/-- The key may be looked up again, but it is no new one. -/
theorem mem_lookupKeys_of_added (wanted : key ∈ before.lookupKeys) (other : String) :
    other ∈ later.lookupKeys ↔ other ∈ before.lookupKeys := by
  rcases lookupKeys_of_added added indirect with same | grown
  · rw [same]
  · rw [grown, List.mem_append, List.mem_singleton]
    constructor
    · rintro (earlier | rfl)
      · exact earlier
      · exact wanted
    · exact .inl

end Added

/-! ## Calls of providers in memory -/

section Memories

theorem outcome_registerWith_memories (parts : List (Part σ (MemoryProvider kind))) (state : σ) :
    (registerWith correlation key params (parts.map MemoryProvider.within)).outcome state =
      (.ok (), MemoryProvider.registered key params parts state) := by
  induction parts generalizing state with
  | nil => rfl
  | cons part rest ih =>
    have registered : (call ((MemoryProvider.within part).register correlation key params)).outcome
        state = (.ok params, part.set ((part.get state).register key params) state) := by
      rw [call, Action.outcome_adapt, MemoryProvider.outcome_register_within]
      rfl
    rw [List.map_cons, registerWith, Action.outcome_bind_ok registered, ih]
    rfl

theorem outcome_askAll_memories (parts : List (Part σ (MemoryProvider kind))) :
    (askAll correlation key (parts.map MemoryProvider.within)).outcome state =
      (.ok (MemoryProvider.heldUnder parts state key), state) := by
  induction parts with
  | nil => rfl
  | cons part rest ih =>
    have asked : (call ((MemoryProvider.within part).resolveAll correlation key)).outcome state =
        (.ok ((part.get state).resolveAll key), state) := by
      rw [call, Action.outcome_adapt, MemoryProvider.outcome_resolveAll_within]
      rfl
    rw [List.map_cons, askAll, Action.outcome_bind_ok asked, Action.outcome_bind_ok ih]
    rfl

variable (memories : resolver.providers = parts.map MemoryProvider.within) (nonempty : parts ≠ [])
include memories nonempty

theorem requireProviders_of_memories :
    resolver.requireProviders = pure (parts.map MemoryProvider.within) := by
  unfold requireProviders
  rw [memories, if_neg (by simpa using nonempty)]

theorem outcome_register_memories (indirect : params.indirection? = some key) :
    (register correlation params).outcome (resolver, state) =
      (.ok true, resolver.add params, MemoryProvider.registered key params parts state) := by
  rw [outcome_register_of_indirect indirect, requireProviders_of_memories memories nonempty,
    pure_bind, outcome_registerWith_memories]

theorem outcome_allOf_memories (keys : List String) :
    (resolver.allOf correlation keys).outcome state =
      (.ok (keys.flatMap (MemoryProvider.heldUnder parts state)), state) := by
  induction keys with
  | nil => rfl
  | cons key rest ih =>
    rw [allOf, requireProviders_of_memories memories nonempty, pure_bind,
      Action.outcome_bind_ok (outcome_askAll_memories parts), Action.outcome_bind_ok ih]
    rfl

theorem outcome_resolveAll_memories :
    (resolver.resolveAll correlation).outcome state =
      (.ok (resolver.direct ++
        resolver.lookupKeys.flatMap (MemoryProvider.heldUnder parts state)), state) := by
  unfold resolveAll
  rw [Action.outcome_bind_ok (outcome_allOf_memories memories nonempty resolver.lookupKeys)]
  rfl

/-- Nothing is found if and only if no item is direct and nothing is held under a key. -/
theorem resolve_none_iff_memories :
    ((resolver.resolve correlation).outcome state).1 = .ok none ↔
      resolver.direct = [] ∧
        ∀ key ∈ resolver.lookupKeys, MemoryProvider.heldUnder parts state key = [] := by
  have all : ((resolver.resolveAll correlation).outcome state).1 = .ok (resolver.direct ++
      resolver.lookupKeys.flatMap (MemoryProvider.heldUnder parts state)) := by
    rw [outcome_resolveAll_memories memories nonempty]
  rw [(lookupsAgree_of_memories memories state).resolve_of_resolveAll all, Except.ok.injEq,
    List.head?_eq_none_iff, List.append_eq_nil_iff, List.flatMap_eq_nil_iff]

/-- If nothing was held under any key, then it is the registered parameters that are found. -/
theorem resolve_registered_memories (apart : parts.Pairwise Part.Apart)
    (noDirect : resolver.direct = []) (wanted : key ∈ resolver.lookupKeys)
    (unheld : ∀ other ∈ resolver.lookupKeys, MemoryProvider.heldUnder parts state other = []) :
    ((resolver.resolve correlation).outcome
      (MemoryProvider.registered key params parts state)).1 = .ok (some params) := by
  have all : ((resolver.resolveAll correlation).outcome
      (MemoryProvider.registered key params parts state)).1 = .ok (resolver.lookupKeys.flatMap
        (MemoryProvider.heldUnder parts (MemoryProvider.registered key params parts state))) := by
    rw [outcome_resolveAll_memories memories nonempty, noDirect, List.nil_append]
  have only : ∀ item ∈ resolver.lookupKeys.flatMap
      (MemoryProvider.heldUnder parts (MemoryProvider.registered key params parts state)),
      item = params := by
    intro item found
    obtain ⟨other, listed, found⟩ := List.mem_flatMap.mp found
    by_cases same : other = key
    · rw [same] at found
      exact MemoryProvider.eq_of_mem_heldUnder_registered apart (unheld key wanted) found
    · rw [MemoryProvider.heldUnder_registered_of_ne apart same, unheld other listed] at found
      cases found
  have present : params ∈ resolver.lookupKeys.flatMap
      (MemoryProvider.heldUnder parts (MemoryProvider.registered key params parts state)) :=
    List.mem_flatMap.mpr
      ⟨key, wanted, MemoryProvider.mem_heldUnder_registered apart nonempty⟩
  rw [(lookupsAgree_of_memories memories _).resolve_of_resolveAll all]
  obtain ⟨first, rest, found⟩ := List.exists_cons_of_ne_nil (List.ne_nil_of_mem present)
  rw [found, only first (by simp [found])]
  rfl

end Memories

/-- What is read of registered parameters through a resolver. It is read before and after
the registration, and the resolver may have been given the parameters in between. -/
structure ReadsRegistered (writer before later : Resolver σ kind)
    (parts : List (Part σ (MemoryProvider kind))) (correlation key : String)
    (params : Params kind) (state after : σ) : Prop where
  registered : (register correlation params).outcome (writer, state) =
    (.ok true, writer.add params, after)
  readBefore (reading : String) : (before.resolveAll reading).outcome state =
    (.ok (before.direct ++ before.lookupKeys.flatMap (MemoryProvider.heldUnder parts state)), state)
  readAfter (reading : String) : (later.resolveAll reading).outcome after =
    (.ok (before.direct ++ later.lookupKeys.flatMap (MemoryProvider.heldUnder parts after)), after)
  keys : later.lookupKeys = before.lookupKeys ∨ later.lookupKeys = before.lookupKeys ++ [key]
  sameKey : MemoryProvider.heldUnder parts after key =
    parts.flatMap fun part => (part.get state).resolveAll key ++ [params]
  otherKey (other : String) : other ≠ key →
    MemoryProvider.heldUnder parts after other = MemoryProvider.heldUnder parts state other
  found (reading : String) : (∃ item ∈ before.items, item.indirection? = some key) →
    ((before.resolve reading).outcome state).1 = .ok none →
      ((later.resolve reading).outcome after).1 = .ok (some params)

/-- Registering succeeds, and through every resolver with the same references and locator
each item of the key then gives what it gave before and the parameters after that, for
each provider in turn. -/
theorem readsRegistered {writer before later : Resolver σ kind}
    {parts : List (Part σ (MemoryProvider kind))} {key : String} {params : Params kind}
    (references : before.references = writer.references) (locator : before.locator = writer.locator)
    (sameOrOther : later = before ∨ before = writer ∧ later = writer.add params)
    (memories : writer.providers = parts.map MemoryProvider.within) (nonempty : parts ≠ [])
    (apart : parts.Pairwise Part.Apart) (indirect : params.indirection? = some key)
    (correlation : String) (state : σ) :
    ∃ after, ReadsRegistered writer before later parts correlation key params state after := by
  have added : later = before ∨ later = before.add params := by
    rcases sameOrOther with same | ⟨rfl, added⟩
    · exact .inl same
    · exact .inr added
  have beforeMemories : before.providers = parts.map MemoryProvider.within := by
    rw [providers_congr references locator, memories]
  have laterMemories : later.providers = parts.map MemoryProvider.within := by
    rw [providers_of_added added, beforeMemories]
  have laterDirect : later.direct = before.direct := direct_of_added added indirect
  refine ⟨MemoryProvider.registered key params parts state, ?_⟩
  constructor
  case registered => exact outcome_register_memories memories nonempty indirect
  case readBefore => exact fun _ => outcome_resolveAll_memories beforeMemories nonempty
  case readAfter =>
    intro reading
    rw [outcome_resolveAll_memories laterMemories nonempty, laterDirect]
  case keys => exact lookupKeys_of_added added indirect
  case sameKey => exact MemoryProvider.heldUnder_registered_self apart
  case otherKey => exact fun _ => MemoryProvider.heldUnder_registered_of_ne apart
  case found =>
    intro reading listed missed
    have wanted : key ∈ before.lookupKeys := mem_lookupKeys_iff.mpr listed
    obtain ⟨noDirect, unheld⟩ := (resolve_none_iff_memories beforeMemories nonempty).mp missed
    have sameKeys := mem_lookupKeys_of_added added indirect wanted
    exact resolve_registered_memories laterMemories nonempty apart (laterDirect.trans noDirect)
      ((sameKeys key).mpr wanted) fun other looked => unheld other ((sameKeys other).mp looked)

/-- Parameters that are to be found under a key that the farther provider has already. -/
def announced : Params .connection :=
  ⟨(Bag.empty.put "discovery_key" "y").put "host" "quay"⟩

/-- A resolver beside the one that the parameters are registered through. -/
def visitor : Resolver (MemoryProvider .connection × MemoryProvider .connection) .connection :=
  { berths with items := [⟨Bag.empty.put "discovery_key" "y"⟩] }

theorem readsRegistered_berths :
    (∃ after, ReadsRegistered berths berths (berths.add announced) [Part.fst _ _, Part.snd _ _]
      "id" "y" announced berthsHeld after) ∧
    ∃ after, ReadsRegistered berths visitor visitor [Part.fst _ _, Part.snd _ _]
        "id" "y" announced berthsHeld after ∧
      ((visitor.resolveAll "id").outcome after).1 = .ok [announced, ⟨.empty⟩, announced] := by
  have apart : [Part.fst (MemoryProvider .connection) (MemoryProvider .connection),
      Part.snd _ _].Pairwise Part.Apart := List.pairwise_pair.mpr (Part.fst_apart_snd _)
  have indirect : announced.indirection? = some "y" := rfl
  have nonempty : [Part.fst (MemoryProvider .connection) (MemoryProvider .connection),
      Part.snd _ _] ≠ [] := List.cons_ne_nil _ _
  constructor
  · exact readsRegistered rfl rfl (.inr ⟨rfl, rfl⟩) providers_berths nonempty apart indirect
      "id" berthsHeld
  · have references : visitor.references = berths.references := rfl
    obtain ⟨after, reads⟩ := readsRegistered references rfl (.inl rfl) providers_berths
      nonempty apart indirect "id" berthsHeld
    have keys : visitor.lookupKeys = ["y"] := rfl
    refine ⟨after, reads, ?_⟩
    rw [reads.readAfter, keys, List.flatMap_cons, reads.sameKey]
    rfl

end Provision.Resolver

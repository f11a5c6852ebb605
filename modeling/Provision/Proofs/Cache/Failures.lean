import Provision.Cache.Null
import Provision.Proofs.Cache.Calls

/-! Operations of caches that fail. The key is checked first, what is to be encoded or
decoded second, and a step that does not pass both changes nothing. That takes an
argument for a retrieval only: it may drop what it finds expired, but then there is
nothing left to decode. Nothing is asked of the state of a cache or of the instant. -/

set_option autoImplicit false

namespace Provision

inductive KeyedOperation : Type 1 where
  | storeRaw (key : String) (value : ByteArray) (ttl : Option Duration)
  | retrieveRaw (key : String)
  | contains (key : String)
  | remove (key : String)
  | store {ε α : Type} (codec : Codec ε α) (key : String) (value : α) (ttl : Option Duration)
  | retrieve {ε α : Type} (codec : Codec ε α) (key : String)

namespace KeyedOperation

def key : KeyedOperation → String
  | .storeRaw key _ _ | .retrieveRaw key | .contains key | .remove key
  | .store _ key _ _ | .retrieve _ key => key

def Answer : KeyedOperation → Type
  | .storeRaw _ _ _ | .remove _ => Unit
  | .retrieveRaw _ => Option ByteArray
  | .contains _ => Bool
  | @store _ α _ _ _ _ => α
  | @retrieve _ α _ _ => Option α

/-- The errors of what an operation converts with. -/
def Error : KeyedOperation → Type
  | .storeRaw _ _ _ | .retrieveRaw _ | .contains _ | .remove _ => Empty
  | @store ε _ _ _ _ _ => ε
  | @retrieve ε _ _ _ => ε

def FailsToEncode : (operation : KeyedOperation) → operation.Error → Prop
  | .store codec _ value _, error => codec.encode value = .error error
  | _, _ => False

def FailsToDecode (bytes : ByteArray) : (operation : KeyedOperation) → operation.Error → Prop
  | .retrieve codec _, error => codec.decode bytes = .error error
  | _, _ => False

def perform {σ : Type} (cache : Cache σ) (now : Instant) :
    (operation : KeyedOperation) → CacheStep operation.Error σ operation.Answer
  | .storeRaw key value ttl => cache.storeRaw key value ttl now
  | .retrieveRaw key => cache.retrieveRaw key now
  | .contains key => cache.contains key now
  | .remove key => cache.remove key
  | .store codec key value ttl => cache.store codec key value ttl now
  | .retrieve codec key => cache.retrieve codec key now

end KeyedOperation

/-- The outcomes of a step that checks a key first and then what it converts, given the
errors that the conversion has for what it is given. It has at most one. -/
inductive Checked {ε σ α : Type} (key : String) (unfit : ε → Prop) (state : σ) :
    Except (CacheError ε) α × σ → Prop where
  | blank (empty : key = "") : Checked key unfit state (.error .emptyKey, state)
  | unfit {error} (keyed : key ≠ "") (reason : ∀ other, unfit other ↔ error = other) :
      Checked key unfit state (.error (.serialization error), state)
  | done {answer after} (keyed : key ≠ "") (fit : ∀ error, ¬ unfit error) :
      Checked key unfit state (.ok answer, after)

namespace Checked

variable {ε σ α β : Type} {key : String} {unfit : ε → Prop} {state : σ}
  {outcome : Except (CacheError ε) α × σ}

theorem unchanged (checked : Checked key unfit state outcome) {error : CacheError ε}
    (failed : outcome.1 = .error error) : outcome.2 = state := by
  cases checked with
  | blank empty => rfl
  | unfit keyed reason => rfl
  | done keyed fit => cases failed

theorem emptyKey_iff (checked : Checked key unfit state outcome) :
    outcome.1 = .error .emptyKey ↔ key = "" := by
  cases checked with
  | blank empty => simp [empty]
  | unfit keyed reason => simp [keyed]
  | done keyed fit => simp [keyed]

theorem serialization_iff (checked : Checked key unfit state outcome) (error : ε) :
    outcome.1 = .error (.serialization error) ↔ key ≠ "" ∧ unfit error := by
  cases checked with
  | blank empty => simp [empty]
  | unfit keyed reason => simp [keyed, reason error]
  | done keyed fit => simp [fit error]

theorem map (checked : Checked key unfit state outcome) (f : α → β) :
    Checked key unfit state (outcome.1.map f, outcome.2) := by
  cases checked with
  | blank empty => exact .blank empty
  | unfit keyed reason => exact .unfit keyed reason
  | done keyed fit => exact .done keyed fit

theorem congr {other : ε → Prop} (checked : Checked key unfit state outcome)
    (same : ∀ error, unfit error ↔ other error) : Checked key other state outcome := by
  rw [← funext fun error => propext (same error)]
  exact checked

/-- A step that converts nothing, as one that could. -/
theorem widen {never : Empty → Prop} {outcome : Except (CacheError Empty) α × σ}
    (checked : Checked key never state outcome) :
    Checked key (fun _ : ε => False) state (outcome.1.mapError .widen, outcome.2) := by
  cases checked with
  | blank empty => exact .blank empty
  | @unfit error keyed reason => exact error.elim
  | done keyed fit => exact .done keyed fun _ => id

theorem of_withKey (key : String) (step : σ → α × σ) (state : σ) :
    Checked key (fun _ => False) state (withKey key step state) := by
  unfold withKey
  split
  · next empty => exact .blank empty
  · next keyed => exact .done keyed fun _ => id

end Checked

/-- What the typed operations rely on: bytes are refused for an empty key and for nothing
else, and a retrieval answers with what is held and keeps it. -/
structure Cache.ChecksKeys {σ : Type} (cache : Cache σ)
    (held : σ → String → Instant → Option ByteArray) : Prop where
  storeRaw : ∀ key value ttl now state,
    Checked key (fun _ => False) state (cache.storeRaw key value ttl now state)
  retrieveRaw : ∀ key now state, Checked key (fun _ => False) state (cache.retrieveRaw key now state)
  contains : ∀ key now state, Checked key (fun _ => False) state (cache.contains key now state)
  remove : ∀ key state, Checked key (fun _ => False) state (cache.remove key state)
  answers : ∀ key now state, key ≠ "" →
    (cache.retrieveRaw key now state).1 = .ok (held state key now)
  keeps : ∀ key now state, key ≠ "" → (held state key now).isSome = true →
    (cache.retrieveRaw key now state).2 = state

namespace Cache.ChecksKeys

variable {ε σ α : Type} {cache : Cache σ} {held : σ → String → Instant → Option ByteArray}

theorem store (checks : cache.ChecksKeys held) (codec : Codec ε α) (key : String) (value : α)
    (ttl : Option Duration) (now : Instant) (state : σ) :
    Checked key (fun error => codec.encode value = .error error) state
      (cache.store codec key value ttl now state) := by
  unfold Cache.store
  split
  · next empty => exact .blank empty
  · next keyed =>
    cases encoded : codec.encode value with
    | error error => exact .unfit keyed fun _ => by rw [Except.error.injEq]
    | ok bytes =>
      have raw := checks.storeRaw key bytes ttl now state
      exact (raw.widen.map fun _ => value).congr fun _ => by simp

theorem retrieve (checks : cache.ChecksKeys held) (codec : Codec ε α) (key : String)
    (now : Instant) (state : σ) :
    Checked key
      (fun error => ∃ bytes, held state key now = some bytes ∧ codec.decode bytes = .error error)
      state (cache.retrieve codec key now state) := by
  have raw := checks.retrieveRaw key now state
  have answers := checks.answers key now state
  have keeps := checks.keeps key now state
  rw [Cache.retrieve_eq]
  generalize cache.retrieveRaw key now state = outcome at raw answers keeps
  cases raw with
  | blank empty => exact .blank empty
  | @unfit error => exact error.elim
  | @done _ after keyed _ =>
    cases answers keyed
    cases found : held state key now with
    | none => exact .done keyed (by simp)
    | some bytes =>
      have same : after = state := keeps keyed (by rw [found]; rfl)
      subst same
      simp only [Codec.decodeFound_of_read, Codec.decodeFound]
      cases decoded : codec.decode bytes with
      | error error => exact .unfit keyed (by simp [decoded])
      | ok value => exact .done keyed (by simp [decoded])

end Cache.ChecksKeys

/-- If the operations on bytes check keys, every operation fails in the order of its checks. -/
theorem KeyedOperation.checked {σ : Type} {cache : Cache σ}
    {held : σ → String → Instant → Option ByteArray} (checks : cache.ChecksKeys held)
    (now : Instant) (operation : KeyedOperation) (state : σ) :
    Checked operation.key
      (fun error => operation.FailsToEncode error ∨
        ∃ bytes, held state operation.key now = some bytes ∧ operation.FailsToDecode bytes error)
      state (operation.perform cache now state) := by
  have nothing (_ : Empty) : False ↔
      False ∨ ∃ bytes, held state operation.key now = some bytes ∧ False := by simp
  cases operation with
  | storeRaw key value ttl => exact (checks.storeRaw key value ttl now state).congr nothing
  | retrieveRaw key => exact (checks.retrieveRaw key now state).congr nothing
  | contains key => exact (checks.contains key now state).congr nothing
  | remove key => exact (checks.remove key state).congr nothing
  | store codec key value ttl =>
    refine (checks.store codec key value ttl now state).congr fun error => ?_
    simp [FailsToEncode, FailsToDecode]
  | retrieve codec key =>
    refine (checks.retrieve codec key now state).congr fun error => ?_
    simp [FailsToEncode, FailsToDecode, KeyedOperation.key]

theorem CacheEntries.exists_alive_value_iff {entries : CacheEntries} {key : String}
    {now : Instant} {p : ByteArray → Prop} :
    (∃ bytes, ((entries.alive now)[key]?).map CacheEntry.value = some bytes ∧ p bytes) ↔
      ∃ entry, entries[key]? = some entry ∧ entry.isExpired now = false ∧ p entry.value := by
  constructor
  · intro ⟨bytes, found, holds⟩
    obtain ⟨entry, alive, rfl⟩ := Option.map_eq_some_iff.mp found
    obtain ⟨listed, fresh⟩ := getElem?_alive_eq_some_iff.mp alive
    exact ⟨entry, listed, fresh, holds⟩
  · intro ⟨entry, listed, fresh, holds⟩
    have alive := getElem?_alive_eq_some_iff.mpr ⟨listed, fresh⟩
    exact ⟨entry.value, Option.map_eq_some_iff.mpr ⟨entry, alive, rfl⟩, holds⟩

namespace MemoryCache

theorem checksKeys (tie : TieBreak) :
    (asCache tie).ChecksKeys fun cache key now =>
      ((cache.entries.alive now)[key]?).map CacheEntry.value := by
  constructor
  case storeRaw =>
    intro key value ttl now cache
    simp only [asCache, storeRaw]
    exact .of_withKey key _ cache
  case retrieveRaw =>
    intro key now cache
    simp only [asCache, retrieveRaw]
    exact .of_withKey key _ cache
  case contains =>
    intro key now cache
    simp only [asCache, contains, retrieveRaw]
    exact (Checked.of_withKey key _ cache).map Option.isSome
  case remove =>
    intro key cache
    simp only [asCache, remove]
    exact .of_withKey key _ cache
  case answers =>
    intro key now cache keyed
    exact congrArg Prod.fst (retrieveRaw_eq keyed)
  case keeps =>
    intro key now cache keyed found
    obtain ⟨entry, held⟩ := Option.isSome_iff_exists.mp (Option.isSome_map.symm.trans found)
    obtain ⟨listed, fresh⟩ := CacheEntries.getElem?_alive_eq_some_iff.mp held
    refine (congrArg Prod.snd (retrieveRaw_eq keyed)).trans ?_
    simp [CacheEntries.looked, listed, fresh]

end MemoryCache

theorem NullCache.checksKeys : NullCache.asCache.ChecksKeys fun _ _ _ => none := by
  constructor <;> simp only [asCache]
  case storeRaw => exact fun key _ _ _ cache => .of_withKey key _ cache
  case retrieveRaw => exact fun key _ cache => .of_withKey key _ cache
  case contains => exact fun key _ cache => .of_withKey key _ cache
  case remove => exact fun key cache => .of_withKey key _ cache
  case answers =>
    intro key now cache keyed
    simp only [withKey, keyed, if_false]
  case keeps =>
    intro key now cache keyed found
    cases found

/-- How operations fail, by a cache in memory and by one that keeps nothing. -/
structure FailureLaws (tie : TieBreak) (now : Instant) (operation : KeyedOperation)
    (cache : MemoryCache) : Prop where
  unchanged : ∀ error,
    (operation.perform (MemoryCache.asCache tie) now cache).1 = .error error →
      (operation.perform (MemoryCache.asCache tie) now cache).2 = cache
  emptyKey : (operation.perform (MemoryCache.asCache tie) now cache).1 = .error .emptyKey ↔
    operation.key = ""
  serialization : ∀ error,
    (operation.perform (MemoryCache.asCache tie) now cache).1 = .error (.serialization error) ↔
      operation.key ≠ "" ∧ (operation.FailsToEncode error ∨
        ∃ entry, cache.entries[operation.key]? = some entry ∧ entry.isExpired now = false ∧
          operation.FailsToDecode entry.value error)
  nullEmptyKey : (operation.perform NullCache.asCache now ⟨⟩).1 = .error .emptyKey ↔
    (operation.perform (MemoryCache.asCache tie) now cache).1 = .error .emptyKey
  nullSerialization : ∀ error,
    (operation.perform NullCache.asCache now ⟨⟩).1 = .error (.serialization error) ↔
      operation.key ≠ "" ∧ operation.FailsToEncode error

theorem failureLaws (tie : TieBreak) (now : Instant) (operation : KeyedOperation)
    (cache : MemoryCache) : FailureLaws tie now operation cache := by
  have checked := operation.checked (MemoryCache.checksKeys tie) now cache
  have nullChecked := operation.checked NullCache.checksKeys now ⟨⟩
  constructor
  case unchanged => exact fun error failed => checked.unchanged failed
  case emptyKey => exact checked.emptyKey_iff
  case serialization =>
    intro error
    rw [checked.serialization_iff, CacheEntries.exists_alive_value_iff]
  case nullEmptyKey => rw [nullChecked.emptyKey_iff, checked.emptyKey_iff]
  case nullSerialization =>
    intro error
    rw [nullChecked.serialization_iff]
    simp

end Provision

import Provision.Proofs.Cache.Calls

/-! Reading back what was just stored. A store can take a cache over its limit, and then
the entry it wrote competes for the eviction like any other: what is stored for a
shorter time than all that is there does not get in. A value reads back exactly unless
its own store gave it up. -/

set_option autoImplicit false

namespace Provision

open CacheEntries

namespace CacheEntries

variable {entries : CacheEntries} {tie : TieBreak} {maxSize : Nat} {fresh : CacheEntry}
  {now : Instant}

/-- The store of an entry evicts that very entry. -/
def GivesUp (tie : TieBreak) (maxSize : Nat) (fresh : CacheEntry) (now : Instant)
    (entries : CacheEntries) : Prop :=
  isOver maxSize (entries.crowd fresh now) = true ∧
    tie.pick (soonest (entries.crowd fresh now)) = some fresh

instance (tie : TieBreak) (maxSize : Nat) (fresh : CacheEntry) (now : Instant)
    (entries : CacheEntries) : Decidable (entries.GivesUp tie maxSize fresh now) :=
  inferInstanceAs (Decidable (_ ∧ _))

theorem getElem?_crowd_self : (entries.crowd fresh now)[fresh.key]? = some fresh :=
  Std.ExtTreeMap.getElem?_insert_self

theorem KeysAgree.crowd (agree : KeysAgree entries) : KeysAgree (entries.crowd fresh now) :=
  (agree.alive now).insert rfl

/-- An eviction takes a crowd's fresh entry out exactly if it selects that entry. -/
theorem getElem?_evictOne_crowd (agree : KeysAgree entries) :
    ((entries.crowd fresh now).evictOne tie)[fresh.key]? =
      if tie.pick (soonest (entries.crowd fresh now)) = some fresh then none else some fresh := by
  cases selects : tie.pick (soonest (entries.crowd fresh now)) with
  | none =>
    have untouched : (entries.crowd fresh now).evictOne tie = entries.crowd fresh now := by
      simp only [evictOne, selects]
    rw [untouched, getElem?_crowd_self]
    rfl
  | some selected =>
    rw [getElem?_evictOne selects, getElem?_crowd_self]
    by_cases same : fresh.key = selected.key
    · have found := agree.crowd.selected_found selects
      rw [← same, getElem?_crowd_self] at found
      rw [if_pos same, if_pos found.symm]
    · have different : some selected ≠ some fresh := by
        rintro ⟨⟩
        exact same rfl
      rw [if_neg same, if_neg different]

theorem getElem?_alive_stored (agree : KeysAgree entries) (new : fresh.isExpired now = false) :
    (alive (entries.stored tie maxSize fresh now) now)[fresh.key]? =
      if entries.GivesUp tie maxSize fresh now then none else some fresh := by
  rw [alive_stored agree new]
  by_cases exceeds : isOver maxSize (entries.crowd fresh now) = true
  · rw [if_pos exceeds, getElem?_evictOne_crowd agree]
    simp only [GivesUp, exceeds, true_and]
  · have kept : ¬ entries.GivesUp tie maxSize fresh now := fun gone => exceeds gone.1
    rw [if_neg exceeds, if_neg kept, getElem?_crowd_self]

theorem GivesUp.crowded (gone : entries.GivesUp tie maxSize fresh now) :
    0 < maxSize ∧ maxSize < (entries.crowd fresh now).size := by
  simpa [isOver] using gone.1

/-- An entry that ends before all others of a crowd is the one an eviction selects. -/
theorem selects_fresh (agree : KeysAgree entries)
    (soonest : ∀ (other : String) (survivor : CacheEntry), other ≠ fresh.key →
      (entries.crowd fresh now)[other]? = some survivor →
      survivor.expiration.noLaterThan fresh.expiration = false) :
    tie.pick (entries.crowd fresh now).soonest = some fresh := by
  cases selects : tie.pick (entries.crowd fresh now).soonest with
  | none =>
    have member : fresh ∈ all (entries.crowd fresh now) :=
      mem_all_iff.mpr ⟨fresh.key, getElem?_crowd_self⟩
    simp [soonest_eq_nil (tie.pick_eq_none selects)] at member
  | some selected =>
    have found := agree.crowd.selected_found selects
    by_cases same : selected.key = fresh.key
    · rw [same, getElem?_crowd_self] at found
      exact found.symm
    · have first := noLaterThan_of_selected selects getElem?_crowd_self
      rw [soonest selected.key selected same found] at first
      cases first

end CacheEntries

namespace MemoryCache

/-- The entry that a store writes. -/
def fresh (cache : MemoryCache) (key : String) (value : ByteArray) (ttl : Option Duration)
    (now : Instant) : CacheEntry :=
  .new key value now (lifetime cache.config ttl)

/-- The store of a value evicts that very value. -/
def GivesUp (cache : MemoryCache) (tie : TieBreak) (key : String) (value : ByteArray)
    (ttl : Option Duration) (now : Instant) : Prop :=
  cache.entries.GivesUp tie cache.config.maxSize (cache.fresh key value ttl now) now

instance (cache : MemoryCache) (tie : TieBreak) (key : String) (value : ByteArray)
    (ttl : Option Duration) (now : Instant) : Decidable (cache.GivesUp tie key value ttl now) :=
  inferInstanceAs (Decidable (CacheEntries.GivesUp _ _ _ _ _))

/-- A value that is stored is read back at the same instant unless its own store evicts
it. That takes a limit, more values alive than it allows, and none among them that ends
sooner; if all the others end later, it does happen. -/
structure ReadsBack (cache : MemoryCache) (tie : TieBreak) (key : String)
    (ttl : Option Duration) (now : Instant) : Prop where
  bytes : ∀ value : ByteArray,
    (storeRaw tie key value ttl now cache).1 = .ok () ∧
    (retrieveRaw key now (storeRaw tie key value ttl now cache).2).1 =
      .ok (if cache.GivesUp tie key value ttl now then none else some value)
  typed : ∀ {ε α : Type} (codec : Codec ε α) (value answer : α),
    (∀ bytes : ByteArray, codec.encode value = .ok bytes → codec.decode bytes = .ok value) →
    ((asCache tie).store codec key value ttl now cache).1 = .ok answer →
    ∃ bytes : ByteArray, codec.encode value = .ok bytes ∧
      ((asCache tie).retrieve codec key now
          ((asCache tie).store codec key value ttl now cache).2).1 =
        .ok (if cache.GivesUp tie key bytes ttl now then none else some value)
  crowded : ∀ value : ByteArray, cache.GivesUp tie key value ttl now →
    0 < cache.config.maxSize ∧
      cache.config.maxSize < (cache.entries.crowd (cache.fresh key value ttl now) now).size
  soonest : ∀ value : ByteArray, cache.GivesUp tie key value ttl now →
    ∀ (other : String) (survivor : CacheEntry),
      (cache.entries.crowd (cache.fresh key value ttl now) now)[other]? = some survivor →
      (cache.fresh key value ttl now).expiration.noLaterThan survivor.expiration = true
  givesUp : ∀ value : ByteArray,
    (cache.entries.crowd (cache.fresh key value ttl now) now).isOver cache.config.maxSize = true →
    (∀ (other : String) (survivor : CacheEntry), other ≠ key →
      (cache.entries.crowd (cache.fresh key value ttl now) now)[other]? = some survivor →
      survivor.expiration.noLaterThan (cache.fresh key value ttl now).expiration = false) →
    cache.GivesUp tie key value ttl now

variable {cache : MemoryCache} {tie : TieBreak} {key : String} {now : Instant}

theorem retrieveRaw_storeRaw (agree : cache.entries.KeysAgree) (nonempty : key ≠ "")
    (value : ByteArray) (ttl : Option Duration) :
    (retrieveRaw key now (storeRaw tie key value ttl now cache).2).1 =
      .ok (if cache.GivesUp tie key value ttl now then none else some value) := by
  have new : (cache.fresh key value ttl now).isExpired now = false :=
    CacheEntry.isExpired_new key value now _
  have found : (alive (cache.entries.stored tie cache.config.maxSize
      (cache.fresh key value ttl now) now) now)[key]? =
        if cache.GivesUp tie key value ttl now then none
        else some (cache.fresh key value ttl now) :=
    getElem?_alive_stored agree new
  rw [storeRaw_eq agree tie key value ttl now nonempty, retrieveRaw_eq nonempty]
  refine congrArg Except.ok ((congrArg (Option.map CacheEntry.value) found).trans ?_)
  split <;> rfl

theorem readsBack_of_valid (valid : cache.Valid) (tie : TieBreak) (nonempty : key ≠ "")
    (ttl : Option Duration) (now : Instant) : ReadsBack cache tie key ttl now := by
  constructor
  case bytes =>
    intro value
    refine ⟨?_, retrieveRaw_storeRaw valid.agree nonempty value ttl⟩
    rw [storeRaw_eq valid.agree tie key value ttl now nonempty]
  case typed =>
    intro ε α codec value answer undone stored
    cases encoded : codec.encode value with
    | error error => simp [Cache.store, nonempty, encoded] at stored
    | ok bytes =>
      refine ⟨bytes, rfl, ?_⟩
      rw [store_eq_of_encoded encoded, retrieve_eq, retrieveRaw_storeRaw valid.agree nonempty]
      split
      · rfl
      · simp [Codec.decodeFound, undone bytes encoded]
  case crowded => exact fun value gone => CacheEntries.GivesUp.crowded gone
  case soonest => exact fun value gone other survivor => noLaterThan_of_selected gone.2
  case givesUp => exact fun value exceeds later => ⟨exceeds, selects_fresh valid.agree later⟩

/-- After any calls, a value that is stored reads back unless its own store evicts it. -/
theorem readsBack (config : CacheConfig) (calls : List CacheCall) (tie : TieBreak) (key : String)
    (nonempty : key ≠ "") (ttl : Option Duration) (now : Instant) :
    ReadsBack ((empty config).afterCalls calls) tie key ttl now :=
  readsBack_of_valid (valid_afterCalls config calls) tie nonempty ttl now

section FullCache

/-- Room for one entry, which is kept for a minute. -/
def oneMinuteEntry : CacheConfig := ⟨.ofSeconds 60, 1⟩

def longLived : List CacheCall :=
  [⟨.start, .first, .request (.store "a" ⟨#[1]⟩ (some (.ofSeconds 100)))⟩]

/-- In a full cache of longer-lived entries, what is stored for a second is lost at once. -/
theorem stored_not_always_read_back :
    ¬ ∀ (config : CacheConfig) (calls : List CacheCall) (tie : TieBreak) (key : String)
      (value : ByteArray) (ttl : Option Duration) (now : Instant), key ≠ "" →
      (storeRaw tie key value ttl now ((empty config).afterCalls calls)).1 = .ok () →
      (retrieveRaw key now (storeRaw tie key value ttl now ((empty config).afterCalls calls)).2).1 =
        .ok (some value) := by
  intro always
  have nonempty : "b" ≠ "" := by decide
  have gone : ((empty oneMinuteEntry).afterCalls longLived).GivesUp .first "b" ⟨#[2]⟩
      (some (.ofSeconds 1)) .start := by decide +kernel
  have found := always oneMinuteEntry longLived .first "b" ⟨#[2]⟩ (some (.ofSeconds 1)) .start
    nonempty rfl
  rw [retrieveRaw_storeRaw (valid_afterCalls _ _).agree nonempty, if_pos gone] at found
  cases found

theorem readsBack_full :
    "b" ≠ "" ∧ ReadsBack ((empty oneMinuteEntry).afterCalls longLived) .first "b"
      (some (.ofSeconds 200)) .start ∧
    ¬ ((empty oneMinuteEntry).afterCalls longLived).GivesUp .first "b" ⟨#[2]⟩
      (some (.ofSeconds 200)) .start := by
  have nonempty : "b" ≠ "" := by decide
  exact ⟨nonempty, readsBack oneMinuteEntry longLived .first "b" nonempty _ .start,
    by decide +kernel⟩

end FullCache

end MemoryCache

end Provision

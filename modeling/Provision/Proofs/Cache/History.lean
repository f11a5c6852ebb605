import Provision.Proofs.Cache.Entries

/-! Histories of a cache in memory: the requests it can get, each with the instant it
is served at and the rule that settles ties then, and the invariant that every
request keeps, whatever the instant. The rule may differ from event to event, as the
order does in which a hash table lists its entries. -/

set_option autoImplicit false

namespace Provision

inductive CacheRequest where
  | store (key : String) (value : ByteArray) (ttl : Option Duration)
  | retrieve (key : String)
  | contains (key : String)
  | remove (key : String)
  | clear
  | cleanup

structure CacheEvent where
  now : Instant
  tie : TieBreak
  request : CacheRequest

inductive CacheAnswer where
  | stored (result : Except (CacheError Empty) Unit)
  | retrieved (result : Except (CacheError Empty) (Option ByteArray))
  | contained (result : Except (CacheError Empty) Bool)
  | removed (result : Except (CacheError Empty) Unit)
  | done

namespace CacheRequest

def key? : CacheRequest → Option String
  | .store key _ _ | .retrieve key | .contains key | .remove key => some key
  | .clear | .cleanup => none

/-- The answer to a request with an empty key. -/
def refusal : CacheRequest → CacheAnswer
  | .store _ _ _ => .stored (.error .emptyKey)
  | .retrieve _ => .retrieved (.error .emptyKey)
  | .contains _ => .contained (.error .emptyKey)
  | .remove _ => .removed (.error .emptyKey)
  | .clear | .cleanup => .done

end CacheRequest

namespace MemoryCache

def serve (cache : MemoryCache) (event : CacheEvent) : CacheAnswer × MemoryCache :=
  match event.request with
  | .store key value ttl =>
    (storeRaw event.tie key value ttl event.now cache).map .stored id
  | .retrieve key => (retrieveRaw key event.now cache).map .retrieved id
  | .contains key => (contains key event.now cache).map .contained id
  | .remove key => (remove key cache).map .removed id
  | .clear => (.done, cache.clear)
  | .cleanup => (.done, cache.cleanup event.tie event.now)

def answers (cache : MemoryCache) (events : List CacheEvent) : List CacheAnswer :=
  (runEvents serve cache events).1

def after (cache : MemoryCache) (events : List CacheEvent) : MemoryCache :=
  (runEvents serve cache events).2

theorem serve_blank (cache : MemoryCache) (event : CacheEvent)
    (blank : event.request.key? = some "") :
    cache.serve event = (event.request.refusal, cache) := by
  obtain ⟨now, tie, request⟩ := event
  cases request <;> cases blank <;> rfl

/-- What every request keeps: entries lie under their own keys, and there are no more
of them than the settings allow. -/
structure Valid (cache : MemoryCache) : Prop where
  agree : cache.entries.KeysAgree
  fits : cache.entries.isOver cache.config.maxSize = false

theorem valid_empty (config : CacheConfig) : (empty config).Valid := by
  refine ⟨CacheEntries.keysAgree_empty, CacheEntries.isOver_eq_false_iff.mpr (.inr ?_)⟩
  exact Nat.zero_le _

end MemoryCache

namespace CacheEntries

variable {entries : CacheEntries} {key : String} {now : Instant} {tie : TieBreak} {maxSize : Nat}

theorem sweep_within (agree : KeysAgree entries) (tie : TieBreak) (maxSize : Nat)
    (now : Instant) : Within (sweep tie maxSize now entries) (alive entries now) := by
  simp only [sweep]
  split
  · exact evictOne_within (agree.alive now) tie
  · exact fun _ _ found => found

/-- A sweep takes away what has expired and, if that is not enough, one entry more. -/
theorem isOver_sweep (agree : KeysAgree entries) (size : maxSize = 0 ∨ entries.size ≤ maxSize + 1) :
    isOver maxSize (sweep tie maxSize now entries) = false := by
  have fewer := size_alive_le entries now
  cases exceeds : isOver maxSize (alive entries now) with
  | false => simp [sweep, exceeds]
  | true =>
    have evicted := size_evictOne (agree.alive now) tie
    simp only [sweep, exceeds, if_true, isOver_eq_false_iff]
    omega

/-- The entries that a store leaves. -/
def stored (tie : TieBreak) (maxSize : Nat) (entry : CacheEntry) (now : Instant)
    (entries : CacheEntries) : CacheEntries :=
  if isOver maxSize (entries.insert entry.key entry) then
    sweep tie maxSize now (entries.insert entry.key entry)
  else entries.insert entry.key entry

theorem stored_within {entry : CacheEntry} (agree : KeysAgree entries) :
    Within (stored tie maxSize entry now entries) (entries.insert entry.key entry) := by
  have written : KeysAgree (entries.insert entry.key entry) := agree.insert rfl
  unfold stored
  split
  · exact (sweep_within written tie maxSize now).trans (alive_within _ now)
  · exact fun _ _ found => found

theorem KeysAgree.stored {entry : CacheEntry} (agree : KeysAgree entries) :
    KeysAgree (stored tie maxSize entry now entries) :=
  (stored_within agree).keysAgree (agree.insert rfl)

theorem isOver_stored {entry : CacheEntry} (agree : KeysAgree entries)
    (fits : isOver maxSize entries = false) :
    isOver maxSize (stored tie maxSize entry now entries) = false := by
  have grown : (entries.insert entry.key entry).size ≤ entries.size + 1 :=
    Std.ExtTreeMap.size_insert_le
  rw [isOver_eq_false_iff] at fits
  unfold stored
  split
  · exact isOver_sweep (agree.insert rfl) (by omega)
  · next notOver => simpa using notOver

/-- The entries that are alive, with one that is stored now. -/
def crowd (entries : CacheEntries) (fresh : CacheEntry) (now : Instant) : CacheEntries :=
  (alive entries now).insert fresh.key fresh

/-- Leftover entries may bring a sweep forward, but there is an eviction exactly if the
entries that are alive are too many. -/
theorem alive_stored {entry : CacheEntry} (agree : entries.KeysAgree)
    (fresh : entry.isExpired now = false) :
    alive (entries.stored tie maxSize entry now) now =
      if isOver maxSize (entries.crowd entry now) then (entries.crowd entry now).evictOne tie
      else entries.crowd entry now := by
  have written : alive (entries.insert entry.key entry) now = entries.crowd entry now :=
    alive_insert fresh
  have aliveAgree : KeysAgree (alive (entries.insert entry.key entry) now) :=
    (agree.insert rfl).alive now
  have settled (fewer : CacheEntries)
      (within : fewer.Within (alive (entries.insert entry.key entry) now)) :
      alive fewer now = fewer :=
    alive_eq_self fun key held found => (getElem?_alive_eq_some_iff.mp (within key held found)).2
  rw [← written]
  unfold CacheEntries.stored
  cases exceeds : isOver maxSize (entries.insert entry.key entry) with
  | false =>
    have fits := isOver_mono (size_alive_le (entries.insert entry.key entry) now) exceeds
    simp [fits]
  | true =>
    simp only [if_true, sweep]
    split
    · exact settled _ (evictOne_within aliveAgree tie)
    · exact settled _ fun _ _ found => found

/-- A sweep of a cache within its limit takes away what has expired and nothing else. -/
theorem sweep_of_fits (fits : isOver maxSize entries = false) :
    entries.sweep tie maxSize now = alive entries now := by
  have fewer := isOver_mono (size_alive_le entries now) fits
  simp only [sweep, fewer, Bool.false_eq_true, if_false]

/-- The entries that a look-up leaves: an expired one is dropped if it was looked up. -/
def looked (key : String) (now : Instant) (entries : CacheEntries) : CacheEntries :=
  if (entries[key]?).any fun entry => entry.isExpired now then entries.erase key else entries

theorem looked_within (entries : CacheEntries) (key : String) (now : Instant) :
    Within (looked key now entries) entries := by
  unfold looked
  split
  · exact erase_within entries key
  · exact fun _ _ found => found

/-- A look-up drops the same entry of both, if the first has it. -/
theorem Within.looked {fewer : CacheEntries} (within : fewer.Within entries) (key : String)
    (now : Instant) : Within (fewer.looked key now) (entries.looked key now) := by
  intro k entry found
  have held := looked_within fewer key now k entry found
  unfold CacheEntries.looked at found ⊢
  split
  · next expired =>
    by_cases same : key = k
    · subst same
      have dropped : (fewer[key]?).any (fun entry => entry.isExpired now) = true := by
        rw [within key entry held] at expired
        rw [held]
        exact expired
      simp [dropped] at found
    · simpa [Std.ExtTreeMap.getElem?_erase, same] using within k entry held
  · exact within k entry held

theorem size_looked_le : (looked key now entries).size ≤ entries.size := by
  unfold looked
  split
  · exact Std.ExtTreeMap.size_erase_le
  · exact Nat.le_refl _

theorem alive_looked : alive (looked key now entries) now = alive entries now := by
  unfold looked
  cases found : entries[key]? with
  | none => simp
  | some entry =>
    cases past : entry.isExpired now with
    | false => simp [past]
    | true => simpa [past] using alive_erase_expired found past

end CacheEntries

namespace MemoryCache

variable {cache : MemoryCache} {key : String} {now : Instant}

/-- A store under a key changes the entries and nothing else. -/
theorem storeRaw_eq (agree : cache.entries.KeysAgree) (tie : TieBreak) (key : String)
    (value : ByteArray) (ttl : Option Duration) (now : Instant) (nonempty : key ≠ "") :
    storeRaw tie key value ttl now cache =
      (.ok (), { cache with
        entries := cache.entries.stored tie cache.config.maxSize
          (.new key value now (lifetime cache.config ttl)) now }) := by
  simp only [storeRaw, withKey, nonempty, if_false, CacheEntries.write_eq agree]
  rfl

/-- A look-up answers with what is alive under the key. -/
theorem retrieveRaw_eq (nonempty : key ≠ "") :
    retrieveRaw key now cache =
      (.ok (((cache.entries.alive now)[key]?).map CacheEntry.value),
        { cache with entries := cache.entries.looked key now }) := by
  simp only [retrieveRaw, withKey, nonempty, if_false, CacheEntries.getElem?_alive,
    CacheEntries.looked]
  cases found : cache.entries[key]? with
  | none => simp
  | some entry => cases past : entry.isExpired now <;> simp [Option.filter, past]

theorem contains_eq (nonempty : key ≠ "") :
    contains key now cache =
      (.ok ((cache.entries.alive now)[key]?).isSome,
        { cache with entries := cache.entries.looked key now }) := by
  simp [contains, retrieveRaw_eq nonempty, Except.map]

/-- The entries that a request leaves of given ones, unless its key is empty. -/
def entriesAfter (config : CacheConfig) (event : CacheEvent) (entries : CacheEntries) :
    CacheEntries :=
  match event.request with
  | .store key value ttl =>
    entries.stored event.tie config.maxSize (.new key value event.now (lifetime config ttl))
      event.now
  | .retrieve key | .contains key => entries.looked key event.now
  | .remove key => entries.erase key
  | .clear => ∅
  | .cleanup => entries.sweep event.tie config.maxSize event.now

/-- All that a request changes is the entries. -/
theorem serve_state (agree : cache.entries.KeysAgree) (event : CacheEvent)
    (nonempty : event.request.key? ≠ some "") :
    (cache.serve event).2 =
      { cache with entries := entriesAfter cache.config event cache.entries } := by
  obtain ⟨now, tie, request⟩ := event
  cases request with
  | store key value ttl =>
    have keyed : key ≠ "" := by simpa [CacheRequest.key?] using nonempty
    simp only [serve, storeRaw_eq agree _ _ _ _ _ keyed]
    rfl
  | retrieve key =>
    have keyed : key ≠ "" := by simpa [CacheRequest.key?] using nonempty
    simp only [serve, retrieveRaw_eq keyed]
    rfl
  | contains key =>
    have keyed : key ≠ "" := by simpa [CacheRequest.key?] using nonempty
    simp only [serve, contains_eq keyed]
    rfl
  | remove key =>
    have keyed : key ≠ "" := by simpa [CacheRequest.key?] using nonempty
    simp only [serve, remove, withKey, keyed, if_false]
    rfl
  | clear => rfl
  | cleanup => rfl

theorem config_serve (cache : MemoryCache) (event : CacheEvent) :
    (cache.serve event).2.config = cache.config := by
  by_cases blank : event.request.key? = some ""
  · rw [serve_blank cache event blank]
  obtain ⟨now, tie, request⟩ := event
  cases request with
  | store key value ttl =>
    simp only [serve, storeRaw, withKey]
    split <;> rfl
  | retrieve key =>
    have nonempty : key ≠ "" := by simpa [CacheRequest.key?] using blank
    simp only [serve, retrieveRaw_eq nonempty, Prod.map]
    rfl
  | contains key =>
    have nonempty : key ≠ "" := by simpa [CacheRequest.key?] using blank
    simp only [serve, contains_eq nonempty, Prod.map]
    rfl
  | remove key =>
    simp only [serve, remove, withKey]
    split <;> rfl
  | clear => rfl
  | cleanup => rfl

theorem config_after (cache : MemoryCache) (events : List CacheEvent) :
    (cache.after events).config = cache.config := by
  refine runEvents_invariant (fun next : MemoryCache => next.config = cache.config) ?_ rfl events
  intro event state same
  rw [config_serve, same]

theorem Valid.of_within {fewer : CacheEntries} (valid : cache.Valid)
    (within : fewer.Within cache.entries) (smaller : fewer.size ≤ cache.entries.size) :
    Valid { cache with entries := fewer } :=
  ⟨within.keysAgree valid.agree, CacheEntries.isOver_mono smaller valid.fits⟩

theorem Valid.erase (valid : cache.Valid) (key : String) :
    Valid { cache with entries := cache.entries.erase key } :=
  valid.of_within (CacheEntries.erase_within cache.entries key) Std.ExtTreeMap.size_erase_le

theorem Valid.looked (valid : cache.Valid) (key : String) (now : Instant) :
    Valid { cache with entries := cache.entries.looked key now } :=
  valid.of_within (CacheEntries.looked_within cache.entries key now) CacheEntries.size_looked_le

/-- Every request keeps the invariant, at any instant and under any rule for ties. -/
theorem Valid.serve (valid : cache.Valid) (event : CacheEvent) : (cache.serve event).2.Valid := by
  by_cases blank : event.request.key? = some ""
  · rw [serve_blank cache event blank]
    exact valid
  rw [serve_state valid.agree event blank]
  obtain ⟨now, tie, request⟩ := event
  cases request with
  | store key value ttl =>
    exact ⟨valid.agree.stored, CacheEntries.isOver_stored valid.agree valid.fits⟩
  | retrieve key => exact valid.looked key now
  | contains key => exact valid.looked key now
  | remove key => exact valid.erase key
  | clear => exact valid_empty cache.config
  | cleanup =>
    have swept := CacheEntries.sweep_within valid.agree tie cache.config.maxSize now
    refine ⟨swept.keysAgree (valid.agree.alive now), ?_⟩
    have fits := CacheEntries.isOver_eq_false_iff.mp valid.fits
    exact CacheEntries.isOver_sweep valid.agree (fits.imp id Nat.le_succ_of_le)

end MemoryCache

end Provision

import Provision.Proofs.Cache.ReadBack

/-! What a store takes away. Beside what has expired this is one entry at most, and there
is such a loss only under a limit, for a key that was not there, and while nothing that
is held has expired. The entry that goes, which may be the new one, ends no later than
any that stays. The instants of the calls before may be in any order. -/

set_option autoImplicit false

namespace Provision

open CacheEntries

namespace CacheEntries

variable {entries : CacheEntries} {fresh : CacheEntry} {tie : TieBreak} {maxSize : Nat}
  {now : Instant}

theorem contains_of_found {key : String} {entry : CacheEntry} (found : entries[key]? = some entry) :
    entries.contains key = true := by
  rw [Std.ExtTreeMap.contains_eq_isSome_getElem?, found]
  rfl

theorem eq_of_missing {key gone : String} {entry : CacheEntry} (found : entries[key]? = some entry)
    (missing : (entries.erase gone)[key]? ≠ some entry) : gone = key := by
  by_cases same : gone = key
  · exact same
  · refine absurd ?_ missing
    simp [Std.ExtTreeMap.getElem?_erase, same, found]

theorem not_expired_of_size_le (whole : entries.size ≤ (alive entries now).size) {key : String}
    {entry : CacheEntry} (found : entries[key]? = some entry) : entry.isExpired now = false := by
  cases past : entry.isExpired now with
  | false => rfl
  | true =>
    have erased : (entries.erase key).size = entries.size - 1 := by
      rw [Std.ExtTreeMap.size_erase, if_pos (contains_of_found found)]
    have some_entry : entries.size ≠ 0 := by
      intro none
      rw [← Std.ExtTreeMap.eq_empty_iff_size_eq_zero] at none
      simp [none] at found
    -- what is alive without the expired entry is all that is alive
    have fewer := size_alive_le (entries.erase key) now
    rw [alive_erase_expired found past] at fewer
    omega

/-- A store finds its key new, and with its own entry it has one more than the limit
allows, none of which has expired. -/
structure Overfull (maxSize : Nat) (fresh : CacheEntry) (now : Instant)
    (entries : CacheEntries) : Prop where
  limited : 0 < maxSize
  newKey : entries[fresh.key]? = none
  unexpired : ∀ (key : String) (entry : CacheEntry),
    (entries.insert fresh.key fresh)[key]? = some entry → entry.isExpired now = false

/-- Entries within a limit that are too many after a write, even without what has expired,
are one too many. -/
theorem overfull_of_isOver (fits : isOver maxSize entries = false)
    (exceeds : isOver maxSize (alive (entries.insert fresh.key fresh) now) = true) :
    Overfull maxSize fresh now entries := by
  have fewer := size_alive_le (entries.insert fresh.key fresh) now
  obtain ⟨limited, beyond⟩ : 0 < maxSize ∧
      maxSize < (alive (entries.insert fresh.key fresh) now).size := by
    simpa [isOver] using exceeds
  have bounded : entries.size ≤ maxSize := by
    rcases isOver_eq_false_iff.mp fits with unlimited | bounded
    · omega
    · exact bounded
  have added : (entries.insert fresh.key fresh).size =
      if entries.contains fresh.key then entries.size else entries.size + 1 :=
    Std.ExtTreeMap.size_insert
  constructor
  case limited => exact limited
  case newKey =>
    cases found : entries[fresh.key]? with
    | none => rfl
    | some old =>
      rw [if_pos (contains_of_found found)] at added
      omega
  case unexpired =>
    have whole : (entries.insert fresh.key fresh).size ≤
        (alive (entries.insert fresh.key fresh) now).size := by
      split at added <;> omega
    exact fun _ _ found => not_expired_of_size_le whole found

/-- All that a store of entries within a limit can do: write and leave it at that, drop
what has expired, or evict from entries none of which has. -/
theorem stored_cases (fits : isOver maxSize entries = false) :
    entries.stored tie maxSize fresh now = entries.insert fresh.key fresh ∨
    entries.stored tie maxSize fresh now = alive (entries.insert fresh.key fresh) now ∨
    Overfull maxSize fresh now entries ∧
      entries.stored tie maxSize fresh now = evictOne tie (entries.insert fresh.key fresh) := by
  unfold stored
  split
  · simp only [sweep]
    split
    · next exceeds =>
      have overfull := overfull_of_isOver fits exceeds
      rw [alive_eq_self overfull.unexpired]
      exact .inr (.inr ⟨overfull, rfl⟩)
    · exact .inr (.inl rfl)
  · exact .inl rfl

end CacheEntries

namespace MemoryCache

/-- The entries that are held once a store has written its own. -/
def held (cache : MemoryCache) (key : String) (value : ByteArray) (ttl : Option Duration)
    (now : Instant) : CacheEntries :=
  cache.entries.insert key (cache.fresh key value ttl now)

/-- The entries after a store. -/
def kept (cache : MemoryCache) (tie : TieBreak) (key : String) (value : ByteArray)
    (ttl : Option Duration) (now : Instant) : CacheEntries :=
  (storeRaw tie key value ttl now cache).2.entries

/-- A store takes an entry away that has not expired. -/
structure Loses (cache : MemoryCache) (tie : TieBreak) (key : String) (value : ByteArray)
    (ttl : Option Duration) (now : Instant) (gone : String) (entry : CacheEntry) : Prop where
  held : (cache.held key value ttl now)[gone]? = some entry
  unexpired : entry.isExpired now = false
  missing : (cache.kept tie key value ttl now)[gone]? ≠ some entry

section Store

variable {cache : MemoryCache} {tie : TieBreak} {key : String} {value : ByteArray}
  {ttl : Option Duration} {now : Instant} {gone : String} {entry : CacheEntry}

theorem kept_eq (agree : cache.entries.KeysAgree) (nonempty : key ≠ "") :
    cache.kept tie key value ttl now =
      cache.entries.stored tie cache.config.maxSize (cache.fresh key value ttl now) now := by
  unfold kept
  rw [storeRaw_eq agree tie key value ttl now nonempty]
  rfl

theorem kept_cases (valid : cache.Valid) (nonempty : key ≠ "") :
    cache.kept tie key value ttl now = cache.held key value ttl now ∨
    cache.kept tie key value ttl now = (cache.held key value ttl now).alive now ∨
    Overfull cache.config.maxSize (cache.fresh key value ttl now) now cache.entries ∧
      cache.kept tie key value ttl now = (cache.held key value ttl now).evictOne tie := by
  rw [kept_eq valid.agree nonempty]
  exact stored_cases valid.fits

/-- What is lost is the one entry that an eviction selects from all that is held. -/
theorem Loses.evicted (loss : cache.Loses tie key value ttl now gone entry)
    (valid : cache.Valid) (nonempty : key ≠ "") :
    Overfull cache.config.maxSize (cache.fresh key value ttl now) now cache.entries ∧
      cache.kept tie key value ttl now = (cache.held key value ttl now).erase gone ∧
      ∀ (other : String) (survivor : CacheEntry),
        (cache.held key value ttl now)[other]? = some survivor →
        entry.expiration.noLaterThan survivor.expiration = true := by
  obtain ⟨found, unexpired, missing⟩ := loss
  rcases kept_cases valid nonempty with written | swept | ⟨overfull, evicted⟩
  · rw [written] at missing
    exact absurd found missing
  · rw [swept] at missing
    exact absurd (getElem?_alive_eq_some_iff.mpr ⟨found, unexpired⟩) missing
  · have agree : (cache.held key value ttl now).KeysAgree := valid.agree.insert rfl
    rcases evictOne_cases agree tie with ⟨nothing, -⟩ | ⟨victim, selected, listed, erased, first⟩
    · simp [nothing] at found
    · rw [evicted, erased] at missing
      obtain rfl := eq_of_missing found missing
      obtain rfl : entry = selected := Option.some.inj (found.symm.trans listed)
      exact ⟨overfull, evicted.trans erased, first⟩

end Store

/-- A store loses no more than it has to. -/
structure LosesLittle (cache : MemoryCache) (tie : TieBreak) (key : String) (value : ByteArray)
    (ttl : Option Duration) (now : Instant) : Prop where
  stored : (storeRaw tie key value ttl now cache).1 = .ok ()
  within : (cache.kept tie key value ttl now).Within (cache.held key value ttl now)
  one : ∀ (gone other : String) (entry another : CacheEntry),
    cache.Loses tie key value ttl now gone entry →
    cache.Loses tie key value ttl now other another → gone = other
  limited : ∀ (gone : String) (entry : CacheEntry),
    cache.Loses tie key value ttl now gone entry → 0 < cache.config.maxSize
  newKey : ∀ (gone : String) (entry : CacheEntry),
    cache.Loses tie key value ttl now gone entry → cache.entries[key]? = none
  noneExpired : ∀ (gone : String) (entry : CacheEntry),
    cache.Loses tie key value ttl now gone entry →
    ∀ (other : String) (survivor : CacheEntry), cache.entries[other]? = some survivor →
      survivor.isExpired now = false
  soonest : ∀ (gone : String) (entry : CacheEntry),
    cache.Loses tie key value ttl now gone entry →
    ∀ (other : String) (survivor : CacheEntry),
      (cache.kept tie key value ttl now)[other]? = some survivor →
      entry.expiration.noLaterThan survivor.expiration = true
  neverLast : ∀ (gone : String) (entry : CacheEntry),
    cache.Loses tie key value ttl now gone entry → entry.expiration = none →
    ∀ (other : String) (survivor : CacheEntry),
      (cache.held key value ttl now)[other]? = some survivor → survivor.expiration = none

theorem losesLittle_of_valid {cache : MemoryCache} {key : String} (valid : cache.Valid)
    (nonempty : key ≠ "") (tie : TieBreak) (value : ByteArray) (ttl : Option Duration)
    (now : Instant) : LosesLittle cache tie key value ttl now := by
  have within : (cache.kept tie key value ttl now).Within (cache.held key value ttl now) := by
    rw [kept_eq valid.agree nonempty]
    exact stored_within valid.agree
  constructor
  case stored => rw [storeRaw_eq valid.agree tie key value ttl now nonempty]
  case within => exact within
  case one =>
    intro gone other entry another loss otherLoss
    obtain ⟨-, left, -⟩ := loss.evicted valid nonempty
    exact eq_of_missing otherLoss.held (left ▸ otherLoss.missing)
  case limited => exact fun _ _ loss => (loss.evicted valid nonempty).1.limited
  case newKey => exact fun _ _ loss => (loss.evicted valid nonempty).1.newKey
  case noneExpired =>
    intro gone entry loss other survivor found
    obtain ⟨⟨-, newKey, unexpired⟩, -, -⟩ := loss.evicted valid nonempty
    have elsewhere : key ≠ other := by
      rintro rfl
      exact nomatch newKey.symm.trans found
    refine unexpired other survivor ?_
    rw [← found]
    exact Std.ExtTreeMap.getElem?_insert.trans (by simp [elsewhere, fresh, CacheEntry.new])
  case soonest =>
    intro gone entry loss other survivor left
    exact (loss.evicted valid nonempty).2.2 other survivor (within other survivor left)
  case neverLast =>
    intro gone entry loss never other survivor found
    have first := (loss.evicted valid nonempty).2.2 other survivor found
    rw [never] at first
    cases ending : survivor.expiration with
    | none => rfl
    | some instant => simp [ending, Expiration.noLaterThan] at first

/-- After any calls, a store takes away one unexpired entry at most, and only if it must. -/
theorem losesLittle (config : CacheConfig) (calls : List CacheCall) (tie : TieBreak)
    (key : String) (nonempty : key ≠ "") (value : ByteArray) (ttl : Option Duration)
    (now : Instant) : LosesLittle ((empty config).afterCalls calls) tie key value ttl now :=
  losesLittle_of_valid (valid_afterCalls config calls) nonempty tie value ttl now

section MixedEnds

/-- A cache with room for two that is full: one entry never ends, and one ends after a second. -/
def mixedEnds : MemoryCache :=
  (empty ⟨.ofSeconds 60, 2⟩).afterCalls
    [⟨⟨5000000000⟩, .first, .request (.store "never" ⟨#[1]⟩ (some .max))⟩,
      ⟨.start, .first, .request (.store "soon" ⟨#[2]⟩ (some (.ofSeconds 1)))⟩]

theorem losesLittle_mixedEnds :
    "new" ≠ "" ∧ LosesLittle mixedEnds .first "new" ⟨#[3]⟩ none .start ∧
      mixedEnds.Loses .first "new" ⟨#[3]⟩ none .start "soon"
        (.new "soon" ⟨#[2]⟩ .start (.ofSeconds 1)) := by
  have nonempty : "new" ≠ "" := by decide
  exact ⟨nonempty, losesLittle _ _ .first "new" nonempty ⟨#[3]⟩ none .start,
    by decide +kernel, by decide +kernel, by decide +kernel⟩

end MixedEnds

end MemoryCache

end Provision

import Provision.Proofs.Cache.Calls

/-! The limit of a cache in memory. A store writes before it sweeps, and a sweep evicts
one entry at most, which it finds by its end and takes out by the key noted in it. The
limit holds after every call because entries stay under their own keys: the key that a
sweep erases is then that of the entry it selected. Nothing depends on the instants. -/

set_option autoImplicit false

namespace Provision

open CacheEntries

namespace CacheEntries

/-- If a sweep evicts, the entry that it selected is the one that goes. -/
def EvictsSelected (tie : TieBreak) (now : Instant) (entries : CacheEntries) : Prop :=
  ∀ selected : CacheEntry, tie.pick (soonest (entries.alive now)) = some selected →
    (entries.alive now)[selected.key]? = some selected ∧
    ∀ key : String, ((entries.alive now).evictOne tie)[key]? =
      if key = selected.key then none else (entries.alive now)[key]?

theorem KeysAgree.evictsSelected {entries : CacheEntries} (agree : KeysAgree entries)
    (tie : TieBreak) (now : Instant) : EvictsSelected tie now entries := by
  intro selected selects
  exact ⟨(agree.alive now).selected_found selects, getElem?_evictOne selects⟩

end CacheEntries

namespace MemoryCache

/-- What holds of a cache with a limit after every call. -/
structure WithinCapacity (config : CacheConfig) (cache : MemoryCache) : Prop where
  size_le : cache.size ≤ config.maxSize
  key_eq : ∀ (key : String) (entry : CacheEntry), cache.entries[key]? = some entry →
    entry.key = key
  cleanup_evicts : ∀ (tie : TieBreak) (now : Instant), EvictsSelected tie now cache.entries
  store_evicts : ∀ (tie : TieBreak) (key : String) (value : ByteArray) (ttl : Duration)
    (now : Instant), EvictsSelected tie now (write cache.entries key value now ttl)
  cleanup_keeps : ∀ (tie : TieBreak) (now : Instant) (key : String) (entry : CacheEntry),
    (cache.cleanup tie now).entries[key]? = some entry ↔
      cache.entries[key]? = some entry ∧ entry.isExpired now = false

theorem Valid.size_le {cache : MemoryCache} (valid : cache.Valid)
    (limited : 0 < cache.config.maxSize) : cache.size ≤ cache.config.maxSize := by
  rcases isOver_eq_false_iff.mp valid.fits with unlimited | fits
  · omega
  · exact fits

/-- After any calls, at any instants and under any rules for ties, a cache with a limit
is within it, its entries lie under their own keys, and its cleanup takes out exactly
what has expired. -/
theorem withinCapacity (config : CacheConfig) (limited : 0 < config.maxSize)
    (calls : List CacheCall) : WithinCapacity config ((empty config).afterCalls calls) := by
  have valid := valid_afterCalls config calls
  have sameConfig := config_afterCalls config calls
  constructor
  case size_le =>
    have bounded := valid.size_le
    rw [sameConfig] at bounded
    exact bounded limited
  case key_eq => exact valid.agree
  case cleanup_evicts => exact valid.agree.evictsSelected
  case store_evicts =>
    intro tie key value ttl now
    have sameKey : (CacheEntry.new key value now ttl).key = key := rfl
    rw [write_eq valid.agree]
    exact (valid.agree.insert sameKey).evictsSelected tie now
  case cleanup_keeps =>
    intro tie now key entry
    simp only [cleanup, sweep_of_fits valid.fits, getElem?_alive_eq_some_iff]

section ClockSetBack

/-- Room for two entries, which are kept for a minute. -/
def twoEntries : CacheConfig := ⟨.ofSeconds 60, 2⟩

/-- Two short-lived entries; one of them is stored again after its end, and when the
clock is set back to its start, two more are stored while none is expired. -/
def setBackCalls : List CacheCall :=
  [⟨.start, .first, .store JsonCodec.string "a" "one" (some (.ofSeconds 1))⟩,
    ⟨.start, .first, .request (.store "b" ⟨#[2]⟩ (some (.ofSeconds 2)))⟩,
    ⟨⟨5000000000⟩, .first, .request (.store "a" ⟨#[1]⟩ (some .max))⟩,
    ⟨.start, .first, .request (.store "c" ⟨#[3]⟩ none)⟩,
    ⟨.start, .first, .store JsonCodec.bool "d" true (some ⟨0⟩)⟩,
    ⟨⟨1000000000⟩, .first, .retrieve JsonCodec.string "c"⟩]

theorem withinCapacity_setBack :
    0 < twoEntries.maxSize ∧
      WithinCapacity twoEntries ((empty twoEntries).afterCalls setBackCalls) ∧
      ((empty twoEntries).afterCalls setBackCalls).size = 2 := by
  have limited : 0 < twoEntries.maxSize := by decide
  exact ⟨limited, withinCapacity twoEntries limited setBackCalls, by decide +kernel⟩

end ClockSetBack

end MemoryCache

end Provision

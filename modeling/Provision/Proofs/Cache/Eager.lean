import Mathlib.Order.WithBot
import Provision.Proofs.Cache.History

/-! A reference cache that expires eagerly. It keeps when each value was stored and
for how long, and drops a value at the first instant past the end of its life, before
it looks at the request of that instant. It therefore never holds an expired value,
and its limit counts live values only. -/

set_option autoImplicit false

namespace Provision

/-- A value with the instant and the lifetime it was stored with. -/
structure TimedValue where
  value : ByteArray
  storedAt : Instant
  ttl : Duration

namespace TimedValue

/-- The nanosecond a life ends at. It never ends if that lies beyond the clock's range. -/
def due (held : TimedValue) : WithTop Nat :=
  if held.storedAt.nanos + held.ttl.nanos < Instant.bound then
    .some (held.storedAt.nanos + held.ttl.nanos)
  else ⊤

def entry (key : String) (held : TimedValue) : CacheEntry :=
  .new key held.value held.storedAt held.ttl

theorem isExpired_entry (key : String) (held : TimedValue) (now : Instant) :
    (held.entry key).isExpired now = decide (held.due < .some now.nanos) := by
  unfold entry CacheEntry.new CacheEntry.isExpired Expiration.after Instant.add? due
  split
  · simp only [Expiration.isPast, Instant.lt_def, WithTop.coe_lt_coe]
  · simp [Expiration.isPast]

theorem noLaterThan_entry (key other : String) (a b : TimedValue) :
    (a.entry key).expiration.noLaterThan (b.entry other).expiration = decide (a.due ≤ b.due) := by
  unfold entry CacheEntry.new Expiration.after Instant.add? due
  split <;> split
  · simp only [Expiration.noLaterThan, Instant.le_def, WithTop.coe_le_coe]
  · simp [Expiration.noLaterThan]
  · simp [Expiration.noLaterThan]
  · simp [Expiration.noLaterThan]

end TimedValue

structure EagerCache where
  config : CacheConfig
  held : Std.ExtTreeMap String TimedValue

namespace EagerCache

def empty (config : CacheConfig) : EagerCache := ⟨config, ∅⟩

/-- Drops every value whose life has ended before an instant. -/
def tick (now : Instant) (cache : EagerCache) : EagerCache :=
  { cache with held := cache.held.filter fun _ held => !decide (held.due < .some now.nanos) }

/-- The values that are due first, as entries under their keys. -/
def dueFirst (held : Std.ExtTreeMap String TimedValue) : List CacheEntry :=
  (held.toList.filter fun first => held.toList.all fun other =>
    decide (first.2.due ≤ other.2.due)).map fun first => first.2.entry first.1

/-- Gives up one of the values that are due first. -/
def evict (tie : TieBreak) (held : Std.ExtTreeMap String TimedValue) :
    Std.ExtTreeMap String TimedValue :=
  match tie.pick (dueFirst held) with
  | none => held
  | some entry => held.erase entry.key

/-- The given lifetime, unless it is missing or zero; then the default. -/
def lifetime (config : CacheConfig) (ttl : Option Duration) : Duration :=
  (ttl.filter fun given => given.nanos != 0).getD config.timeout

def store (tie : TieBreak) (key : String) (value : ByteArray) (ttl : Option Duration)
    (now : Instant) (cache : EagerCache) : EagerCache :=
  let held := cache.held.insert key ⟨value, now, lifetime cache.config ttl⟩
  { cache with
    held := if 0 < cache.config.maxSize ∧ cache.config.maxSize < held.size then evict tie held
      else held }

/-- The answer and the effect of a request at the instant of an event. -/
def handle (event : CacheEvent) (cache : EagerCache) : CacheAnswer × EagerCache :=
  match event.request with
  | .store key value ttl =>
    if key = "" then (.stored (.error .emptyKey), cache)
    else (.stored (.ok ()), cache.store event.tie key value ttl event.now)
  | .retrieve key =>
    if key = "" then (.retrieved (.error .emptyKey), cache)
    else (.retrieved (.ok ((cache.held[key]?).map TimedValue.value)), cache)
  | .contains key =>
    if key = "" then (.contained (.error .emptyKey), cache)
    else (.contained (.ok (cache.held.contains key)), cache)
  | .remove key =>
    if key = "" then (.removed (.error .emptyKey), cache)
    else (.removed (.ok ()), { cache with held := cache.held.erase key })
  | .clear => (.done, empty cache.config)
  | .cleanup => (.done, cache)

def serve (cache : EagerCache) (event : CacheEvent) : CacheAnswer × EagerCache :=
  (cache.tick event.now).handle event

theorem handle_blank (cache : EagerCache) (event : CacheEvent)
    (blank : event.request.key? = some "") :
    cache.handle event = (event.request.refusal, cache) := by
  obtain ⟨now, tie, request⟩ := event
  cases request <;> cases blank <;> rfl

def answers (cache : EagerCache) (events : List CacheEvent) : List CacheAnswer :=
  (runEvents serve cache events).1

def after (cache : EagerCache) (events : List CacheEvent) : EagerCache :=
  (runEvents serve cache events).2

/-! ## The reference as entries -/

/-- What the reference holds, as entries under their keys. -/
def entries (cache : EagerCache) : CacheEntries :=
  cache.held.map TimedValue.entry

variable {cache : EagerCache} {key : String} {now : Instant}

@[simp] theorem getElem?_entries :
    cache.entries[key]? = (cache.held[key]?).map (TimedValue.entry key) := by
  simp [entries]

theorem entries_empty (config : CacheConfig) : (empty config).entries = ∅ := by
  apply Std.ExtTreeMap.ext_getElem?
  intro key
  simp [empty]

theorem lifetime_eq (config : CacheConfig) (ttl : Option Duration) :
    MemoryCache.lifetime config ttl = lifetime config ttl := by
  cases ttl with
  | none => rfl
  | some given =>
    by_cases zero : given.nanos = 0 <;>
      simp [MemoryCache.lifetime, lifetime, Duration.isZero, Option.filter, zero]

theorem size_entries : cache.entries.size = cache.held.size :=
  Std.ExtTreeMap.size_map

theorem entries_tick : (cache.tick now).entries = cache.entries.alive now := by
  apply Std.ExtTreeMap.ext_getElem?
  intro key
  simp only [getElem?_entries, tick, CacheEntries.getElem?_alive, Std.ExtTreeMap.getElem?_filter',
    Option.filter_map]
  congr 2
  funext held
  simp [Function.comp, TimedValue.isExpired_entry]

theorem entries_erase (key : String) :
    EagerCache.entries { cache with held := cache.held.erase key } = cache.entries.erase key := by
  apply Std.ExtTreeMap.ext_getElem?
  intro k
  simp only [getElem?_entries, Std.ExtTreeMap.getElem?_erase]
  split <;> simp

theorem dueFirst_eq_soonest : dueFirst cache.held = cache.entries.soonest := by
  have listed : cache.entries.all = cache.held.toList.map fun held => held.2.entry held.1 := by
    simp [CacheEntries.all, entries, Std.ExtTreeMap.toList_map, Function.comp_def]
  simp only [CacheEntries.soonest, listed, dueFirst, List.filter_map, List.all_map]
  congr 2
  funext first
  simp [Function.comp_def, TimedValue.noLaterThan_entry]

theorem entries_evict (tie : TieBreak) :
    EagerCache.entries { cache with held := evict tie cache.held } =
      cache.entries.evictOne tie := by
  unfold evict CacheEntries.evictOne
  rw [dueFirst_eq_soonest]
  cases tie.pick cache.entries.soonest with
  | none => rfl
  | some entry => exact entries_erase entry.key

end EagerCache

end Provision

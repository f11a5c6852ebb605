import Std.Data.ExtTreeMap
import Provision.Cache.Basic
import Provision.Cache.Config
import Provision.Cache.Entry

/-! A cache of bounded size without a timer. Expired entries stay until they are read, or
until a store takes the cache over its size; then all of them are dropped, and if that is
not enough, the one entry whose life ends soonest. -/

set_option autoImplicit false

namespace Provision

abbrev CacheEntries := Std.ExtTreeMap String CacheEntry

/-- A rule that picks one of several entries whose lives end at the same time. -/
structure TieBreak where
  pick : List CacheEntry → Option CacheEntry
  pick_mem : ∀ {entries : List CacheEntry} {entry : CacheEntry},
    pick entries = some entry → entry ∈ entries
  pick_eq_none : ∀ {entries : List CacheEntry}, pick entries = none → entries = []

def TieBreak.first : TieBreak where
  pick := List.head?
  pick_mem := List.mem_of_mem_head?
  pick_eq_none := List.head?_eq_none_iff.1

namespace CacheEntries

/-- The entries in the order of their keys. -/
def all (entries : CacheEntries) : List CacheEntry :=
  entries.toList.map Prod.snd

def alive (entries : CacheEntries) (now : Instant) : CacheEntries :=
  entries.filter fun _ entry => !entry.isExpired now

/-- The entries whose lives end no later than that of any other. -/
def soonest (entries : CacheEntries) : List CacheEntry :=
  (all entries).filter fun entry =>
    (all entries).all fun other => entry.expiration.noLaterThan other.expiration

/-- Takes out one entry whose life ends soonest. -/
def evictOne (tie : TieBreak) (entries : CacheEntries) : CacheEntries :=
  match tie.pick (soonest entries) with
  | none => entries
  | some entry => entries.erase entry.key

/-- Whether there are more entries than a limit allows, if there is one. -/
def isOver (maxSize : Nat) (entries : CacheEntries) : Bool :=
  0 < maxSize && maxSize < entries.size

/-- Drops all expired entries, and one more if there are still too many. -/
def sweep (tie : TieBreak) (maxSize : Nat) (now : Instant) (entries : CacheEntries) :
    CacheEntries :=
  let kept := alive entries now
  if isOver maxSize kept then evictOne tie kept else kept

end CacheEntries

structure MemoryCache where
  config : CacheConfig
  entries : CacheEntries

namespace MemoryCache

def empty (config : CacheConfig) : MemoryCache := ⟨config, ∅⟩

/-- The lifetime that a store asks for; missing or zero, it is the default. -/
def lifetime (config : CacheConfig) : Option Duration → Duration
  | none => config.timeout
  | some ttl => if ttl.isZero then config.timeout else ttl

/-- Writes an entry. An entry that is there is changed, not replaced. -/
def write (entries : CacheEntries) (key : String) (value : ByteArray) (now : Instant)
    (ttl : Duration) : CacheEntries :=
  entries.insert key
    (match entries[key]? with
    | some entry => entry.setValue value now ttl
    | none => .new key value now ttl)

/-- Stores a value, and sweeps if there are too many entries. -/
def storeRaw (tie : TieBreak) (key : String) (value : ByteArray) (ttl : Option Duration)
    (now : Instant) : CacheStep Empty MemoryCache Unit :=
  withKey key fun cache =>
    let written := write cache.entries key value now (lifetime cache.config ttl)
    let entries :=
      if CacheEntries.isOver cache.config.maxSize written then
        CacheEntries.sweep tie cache.config.maxSize now written
      else written
    ((), { cache with entries := entries })

/-- The value of an entry that is alive. An expired one is dropped. -/
def retrieveRaw (key : String) (now : Instant) : CacheStep Empty MemoryCache (Option ByteArray) :=
  withKey key fun cache =>
    match cache.entries[key]? with
    | none => (none, cache)
    | some entry =>
      if entry.isExpired now then (none, { cache with entries := cache.entries.erase key })
      else (some entry.value, cache)

/-- Whether there is an entry that is alive. An expired one is dropped. -/
def contains (key : String) (now : Instant) : CacheStep Empty MemoryCache Bool := fun cache =>
  let (found, cache) := retrieveRaw key now cache
  (found.map Option.isSome, cache)

/-- Takes out an entry, alive or expired. -/
def remove (key : String) : CacheStep Empty MemoryCache Unit :=
  withKey key fun cache => ((), { cache with entries := cache.entries.erase key })

def clear (cache : MemoryCache) : MemoryCache :=
  { cache with entries := ∅ }

/-- Drops all expired entries, and one more if there are still too many. -/
def cleanup (tie : TieBreak) (now : Instant) (cache : MemoryCache) : MemoryCache :=
  { cache with entries := cache.entries.sweep tie cache.config.maxSize now }

/-- The number of entries, expired ones included. -/
def size (cache : MemoryCache) : Nat :=
  cache.entries.size

def isEmpty (cache : MemoryCache) : Bool :=
  cache.entries.isEmpty

/-- The operations of a cache in memory with a rule for ties. -/
def asCache (tie : TieBreak) : Cache MemoryCache where
  storeRaw := storeRaw tie
  retrieveRaw := retrieveRaw
  contains := contains
  remove := remove
  clear := clear

end MemoryCache

end Provision

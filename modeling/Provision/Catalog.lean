import Provision.Cache.Memory
import Provision.Cache.Null
import Provision.Factory
import Provision.Lock.Memory
import Provision.Lock.Null
import Provision.Provider.Memory

/-! The components that can be created by their descriptors: caches, locks and providers
in memory, and the caches and locks that keep nothing. -/

set_option autoImplicit false

namespace Provision.Catalog

/-- The descriptor of a component in the catalog. -/
def descriptor (capability kind : String) : Descriptor :=
  ⟨"wharf", capability, kind, "default", "1.0"⟩

/-- A cache of one of the two sorts, with its state. -/
inductive AnyCache where
  | memory (cache : MemoryCache)
  | null (cache : NullCache)

/-- A lock table of one of the two sorts, with its state. -/
inductive AnyLock where
  | memory (table : MemoryLock)
  | null (table : NullLock)

def caches : Factory Unit AnyCache :=
  (Factory.empty.register (descriptor "cache" "memory") (pure (.memory (.empty .default)))).register
    (descriptor "cache" "null") (pure (.null ⟨⟩))

def locks : Factory Unit AnyLock :=
  (Factory.empty.register (descriptor "lock" "memory") (pure (.memory .empty))).register
    (descriptor "lock" "null") (pure (.null ⟨⟩))

def discoveries : Factory Unit (MemoryProvider .connection) :=
  Factory.empty.register (descriptor "discovery" "memory") (pure .empty)

def credentialStores : Factory Unit (MemoryProvider .credential) :=
  Factory.empty.register (descriptor "credential-store" "memory") (pure .empty)

/-- Answers a step of either cache by the operations of its sort. -/
def liftStep {ε σ τ α : Type} (wrap : σ → τ) (answer : Except (CacheError ε) α × σ) :
    Except (CacheError ε) α × τ :=
  (answer.1, wrap answer.2)

def AnyCache.asCache (tie : TieBreak) : Cache AnyCache where
  storeRaw key value ttl now
    | .memory cache => liftStep .memory ((MemoryCache.asCache tie).storeRaw key value ttl now cache)
    | .null cache => liftStep .null (NullCache.asCache.storeRaw key value ttl now cache)
  retrieveRaw key now
    | .memory cache => liftStep .memory ((MemoryCache.asCache tie).retrieveRaw key now cache)
    | .null cache => liftStep .null (NullCache.asCache.retrieveRaw key now cache)
  contains key now
    | .memory cache => liftStep .memory ((MemoryCache.asCache tie).contains key now cache)
    | .null cache => liftStep .null (NullCache.asCache.contains key now cache)
  remove key
    | .memory cache => liftStep .memory ((MemoryCache.asCache tie).remove key cache)
    | .null cache => liftStep .null (NullCache.asCache.remove key cache)
  clear
    | .memory cache => .memory ((MemoryCache.asCache tie).clear cache)
    | .null cache => .null (NullCache.asCache.clear cache)

def AnyLock.asLock : Lock AnyLock where
  tryAcquire key ttl now
    | .memory table =>
      let (answer, table) := MemoryLock.asLock.tryAcquire key ttl now table
      (answer, .memory table)
    | .null table =>
      let (answer, table) := NullLock.asLock.tryAcquire key ttl now table
      (answer, .null table)
  release key
    | .memory table =>
      let (answer, table) := MemoryLock.asLock.release key table
      (answer, .memory table)
    | .null table =>
      let (answer, table) := NullLock.asLock.release key table
      (answer, .null table)

end Provision.Catalog

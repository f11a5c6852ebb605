import Std.Data.ExtTreeMap
import Provision.Lock.Basic

/-! For each key that was taken, the table has the end of the time it was taken for. From
that end on the key is free again, whether or not it was released. An attempt first drops
the records of all keys that are free. -/

set_option autoImplicit false

namespace Provision

/-- The ends of the times that keys were taken for. -/
structure MemoryLock where
  records : Std.ExtTreeMap String Expiration

namespace MemoryLock

def empty : MemoryLock := ⟨∅⟩

/-- The records of keys that are held. -/
def held (table : MemoryLock) (now : Instant) : MemoryLock :=
  ⟨table.records.filter fun _ expiration => expiration.isAhead now⟩

/-- Takes a key unless it is held. -/
def tryAcquire (key : String) (ttl : Duration) (now : Instant) : LockStep MemoryLock Bool :=
  fun table =>
    if key = "" then (.error .emptyKey, table)
    else
      let kept := table.held now
      if kept.records.contains key then (.ok false, kept)
      else (.ok true, ⟨kept.records.insert key (.after now ttl)⟩)

/-- Frees a key, whether or not it is held. -/
def release (key : String) : LockStep MemoryLock Unit := fun table =>
  if key = "" then (.error .emptyKey, table) else (.ok (), ⟨table.records.erase key⟩)

/-- Whether a key is held. -/
def isLocked (table : MemoryLock) (key : String) (now : Instant) : Bool :=
  match table.records[key]? with
  | some expiration => expiration.isAhead now
  | none => false

/-- The number of records, those of free keys included. -/
def size (table : MemoryLock) : Nat :=
  table.records.size

def isEmpty (table : MemoryLock) : Bool :=
  table.records.isEmpty

/-- The operations of a lock table in memory. -/
def asLock : Lock MemoryLock where
  tryAcquire := tryAcquire
  release := release

end MemoryLock

end Provision

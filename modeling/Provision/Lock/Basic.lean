import Provision.Time.Basic

/-! What any lock table can be asked to do: one attempt to take a key for some time, which
never waits, and the release of a key. An attempt is told the time and cannot move the
clock. Locks are advisory, and a release does not ask who holds the key. A key must not be
empty. -/

set_option autoImplicit false

namespace Provision

/-- Why a lock is not acquired or released. -/
inductive LockError where
  | emptyKey
  | conflict (key : String)
  | backend (reason : String)
deriving DecidableEq, Repr

namespace LockError

def message : LockError → String
  | .emptyKey => "lock key cannot be empty"
  | .conflict key => "acquiring lock " ++ key ++ " failed on timeout"
  | .backend reason => "lock backend error: " ++ reason

/-- A code that stays the same when messages change. -/
def code : LockError → String
  | .emptyKey => "EMPTY_KEY"
  | .conflict _ => "LOCK_TIMEOUT"
  | .backend _ => "LOCK_BACKEND"

/-- The key that could not be acquired in time. -/
def key? : LockError → Option String
  | .conflict key => some key
  | _ => none

end LockError

/-- A step of a lock table: its answer and the state after it. -/
abbrev LockStep (σ α : Type) := σ → Except LockError α × σ

/-- A lock table with states of type `σ`. An attempt answers whether it succeeded. -/
structure Lock (σ : Type) where
  tryAcquire : (key : String) → (ttl : Duration) → Instant → LockStep σ Bool
  release : (key : String) → LockStep σ Unit

end Provision

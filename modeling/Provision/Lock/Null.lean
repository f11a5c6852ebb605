import Provision.Lock.Basic

/-! A lock table for where none is wanted. It checks keys like any other, and every
attempt succeeds. -/

set_option autoImplicit false

namespace Provision

/-- The only state of a lock table that keeps nothing. -/
structure NullLock where
deriving DecidableEq, Repr

/-- The operations of a lock table that keeps nothing. -/
def NullLock.asLock : Lock NullLock where
  tryAcquire key _ _ table := if key = "" then (.error .emptyKey, table) else (.ok true, table)
  release key table := if key = "" then (.error .emptyKey, table) else (.ok (), table)

end Provision

import Provision.Cache.Basic

/-! A cache for where none is wanted. It checks keys like any other and holds no value. -/

set_option autoImplicit false

namespace Provision

/-- The only state of a cache that keeps nothing. -/
structure NullCache where
deriving DecidableEq, Repr

def NullCache.asCache : Cache NullCache where
  storeRaw key _ _ _ := withKey key fun cache => ((), cache)
  retrieveRaw key _ := withKey key fun cache => (none, cache)
  contains key _ := withKey key fun cache => (false, cache)
  remove key := withKey key fun cache => ((), cache)
  clear cache := cache

end Provision

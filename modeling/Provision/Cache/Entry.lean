import Provision.Time.Basic

/-! A stored value with the key it was stored under and the end of its life. At its end an
entry is still alive; it is expired from the next instant on. -/

set_option autoImplicit false

namespace Provision

structure CacheEntry where
  key : String
  value : ByteArray
  expiration : Expiration

namespace CacheEntry

/-- An entry that is stored now for some time. -/
def new (key : String) (value : ByteArray) (now : Instant) (ttl : Duration) : CacheEntry :=
  ⟨key, value, .after now ttl⟩

/-- Replaces the value and moves the end of life; the key stays. -/
def setValue (entry : CacheEntry) (value : ByteArray) (now : Instant) (ttl : Duration) :
    CacheEntry :=
  { entry with value := value, expiration := .after now ttl }

def isExpired (entry : CacheEntry) (now : Instant) : Bool :=
  entry.expiration.isPast now

end CacheEntry

end Provision

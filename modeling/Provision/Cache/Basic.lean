import Provision.Time.Basic

/-! What any cache can be asked to do, as actions on its state at an instant. A key must
not be empty. -/

set_option autoImplicit false

namespace Provision

/-- Why a cache does not do what it is asked. A value that is not converted is explained by
whatever converts it. -/
inductive CacheError (ε : Type) where
  | emptyKey
  | serialization (error : ε)
deriving DecidableEq, Repr

namespace CacheError

variable {ε : Type}

def message (describe : ε → String) : CacheError ε → String
  | .emptyKey => "cache key cannot be empty"
  | .serialization error => "serialization error: " ++ describe error

/-- An error of a step that converts nothing, as that of one that does. -/
def widen : CacheError Empty → CacheError ε
  | .emptyKey => .emptyKey
  | .serialization error => error.elim

end CacheError

/-- A step of a cache: its answer and the state after it. -/
abbrev CacheStep (ε σ α : Type) := σ → Except (CacheError ε) α × σ

/-- A cache with states of type `σ`. It holds bytes as they are and converts nothing. A
lifetime that is missing or zero stands for the default of the cache. -/
structure Cache (σ : Type) where
  storeRaw : (key : String) → ByteArray → Option Duration → Instant → CacheStep Empty σ Unit
  retrieveRaw : (key : String) → Instant → CacheStep Empty σ (Option ByteArray)
  contains : (key : String) → Instant → CacheStep Empty σ Bool
  remove : (key : String) → CacheStep Empty σ Unit
  clear : σ → σ

/-- Does a step unless the key is empty; then the state stays. -/
def withKey {σ α : Type} (key : String) (step : σ → α × σ) : CacheStep Empty σ α := fun state =>
  if key = "" then (.error .emptyKey, state)
  else
    let (answer, state) := step state
    (.ok answer, state)

end Provision

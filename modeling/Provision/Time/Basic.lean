import Provision.Word

/-! Time in whole nanoseconds. A clock counts from its own start and has a limited range:
an instant beyond it cannot be represented, which is how a duration that is long enough
comes to mean "never". -/

set_option autoImplicit false

namespace Provision

structure Duration where
  nanos : Nat
deriving DecidableEq, Repr

/-- A point in time, counted from the start of a clock. -/
structure Instant where
  nanos : Nat
deriving DecidableEq, Repr

namespace Duration

def nanosPerSecond : Nat := 1000000000

/-- The durations below this many nanoseconds have seconds that fit 64 bits. -/
def bound : Nat := Word.count 64 * nanosPerSecond

def max : Duration := ⟨bound - 1⟩

def ofMillis (n : Nat) : Duration := ⟨n * 1000000⟩

def ofSeconds (n : Nat) : Duration := ⟨n * nanosPerSecond⟩

def isZero (d : Duration) : Bool := d.nanos == 0

end Duration

namespace Instant

instance : LT Instant := ⟨fun s t => s.nanos < t.nanos⟩
instance : LE Instant := ⟨fun s t => s.nanos ≤ t.nanos⟩
instance (s t : Instant) : Decidable (s < t) := inferInstanceAs (Decidable (s.nanos < t.nanos))
instance (s t : Instant) : Decidable (s ≤ t) := inferInstanceAs (Decidable (s.nanos ≤ t.nanos))

theorem lt_def {s t : Instant} : s < t ↔ s.nanos < t.nanos := Iff.rfl

theorem le_def {s t : Instant} : s ≤ t ↔ s.nanos ≤ t.nanos := Iff.rfl

theorem ext_iff_nanos {s t : Instant} : s = t ↔ s.nanos = t.nanos :=
  ⟨congrArg nanos, fun same => congrArg mk same⟩

/-- The instants below this many nanoseconds can be represented. The range of instants
has 2^63 seconds, and a clock starts a day after its beginning. -/
def bound : Nat := (Word.count 63 - 86400) * Duration.nanosPerSecond

def start : Instant := ⟨0⟩

/-- The instant a duration later, if it can be represented. -/
def add? (t : Instant) (d : Duration) : Option Instant :=
  if t.nanos + d.nanos < bound then some ⟨t.nanos + d.nanos⟩ else none

theorem add?_eq_some_iff {t u : Instant} {d : Duration} :
    t.add? d = some u ↔ u.nanos = t.nanos + d.nanos ∧ t.nanos + d.nanos < bound := by
  unfold add?
  split
  · rename_i inRange
    simp only [Option.some.injEq, inRange, and_true]
    exact ⟨fun same => same ▸ rfl, fun same => ext_iff_nanos.2 same.symm⟩
  · rename_i outOfRange
    simp [outOfRange]

theorem add?_eq_none_iff {t : Instant} {d : Duration} :
    t.add? d = none ↔ bound ≤ t.nanos + d.nanos := by
  simp [add?]

end Instant

/-- When something ends: at an instant, or never. -/
abbrev Expiration := Option Instant

namespace Expiration

/-- The end of something that lasts a given time from now on. It never ends if its
end cannot be represented. -/
def after (now : Instant) (lifetime : Duration) : Expiration :=
  now.add? lifetime

/-- Whether the end lies before now. What ends now has not ended yet. -/
def isPast (now : Instant) : Expiration → Bool
  | none => false
  | some ending => ending < now

/-- Whether the end is still to come. What ends now is over. -/
def isAhead (now : Instant) : Expiration → Bool
  | none => true
  | some ending => now < ending

/-- Whether one end comes no later than another one. -/
def noLaterThan : Expiration → Expiration → Bool
  | _, none => true
  | none, some _ => false
  | some s, some t => s ≤ t

end Expiration

/-- A clock that stands still until it is moved. -/
structure Clock where
  now : Instant
deriving DecidableEq, Repr

namespace Clock

def atStart : Clock := ⟨.start⟩

/-- Moves the clock forward. It cannot pass the end of its range. -/
def advance? (clock : Clock) (d : Duration) : Option Clock :=
  (clock.now.add? d).map Clock.mk

/-- Moves the clock to an instant, forward or back. -/
def set (_ : Clock) (t : Instant) : Clock := ⟨t⟩

end Clock

end Provision

import Provision.Lock.Retry

/-! A timer as one way to pause. It counts ticks of a millisecond and rings after thirty
years at the latest. A pause of whole milliseconds that is no longer than that is exact if
it begins at a whole millisecond. A task can be abandoned when another timer rings
first. -/

set_option autoImplicit false

namespace Provision.Pause

/-- The longest time that a timer is set for: thirty years of 365 days. -/
def farAhead : Duration := .ofSeconds (30 * 365 * 86400)

/-- The instant that a timer is set for. -/
def target (now : Instant) (interval : Duration) : Option Instant :=
  now.add? (if farAhead.nanos < interval.nanos then farAhead else interval)

/-- The length of a tick, in nanoseconds. -/
def tick : Nat := 1000000

/-- When a timer rings that is waited for from now on: as many whole ticks later as lie
between the tick of now and the first tick that is not before the instant it is set for. -/
def ring (now target : Instant) : Instant :=
  ⟨now.nanos + ((target.nanos + (tick - 1)) / tick - now.nanos / tick) * tick⟩

/-- Waits on a timer for an interval. If the timer of the abandonment rings earlier, the
acquisition ends there. -/
def timer (interval : Duration) (abandonAt : Option Instant) : Pause := fun now =>
  match target now interval with
  | none => .error (.clockOverflow, now)
  | some wakeAt =>
    match abandonAt with
    | some ending =>
      if ring now ending < ring now wakeAt then .error (.abandoned, ring now ending)
      else .ok (ring now wakeAt)
    | none => .ok (ring now wakeAt)

/-- What a task waits on that starts now and may be abandoned after some time. -/
def timers (abandonAfter : Option Duration) (start : Instant) : Duration → Pause :=
  fun interval => timer interval (abandonAfter.bind (target start))

end Provision.Pause

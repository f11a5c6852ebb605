import Provision.Lock.Basic
import Provision.Lock.Config

/-! An attempt that finds the key held is repeated after a pause, until one succeeds or
fails, or until a deadline. The deadline is looked at after each pause, so there is at
least one attempt, and a deadline beyond the range of the clock never comes. With a pause
of no length and a key that is never free there is no end: a run is therefore bounded by a
number of attempts, and has no outcome if that many are not enough.

The pause is a parameter. A thread that sleeps fails if it would sleep past the range of
its clock. A task waits on whatever it is given, and can be abandoned while it waits. The
lock table is asked at the instants of the clock that is waited by. One that has a clock
of its own keeps it in its state and does not look at them. -/

set_option autoImplicit false

namespace Provision

/-- How an acquisition ends. -/
inductive AcquireEnding where
  | acquired
  | failed (error : LockError)
  | clockOverflow
  | abandoned
deriving DecidableEq, Repr

/-- A pause from an instant on: when it is over, or how and when the acquisition ends
instead. -/
abbrev Pause := Instant → Except (AcquireEnding × Instant) Instant

namespace Pause

/-- Sleeps for an interval. -/
def sleep (interval : Duration) : Pause := fun now =>
  match now.add? interval with
  | some later => .ok later
  | none => .error (.clockOverflow, now)

end Pause

/-- The end of an acquisition: how and when it came, the state of the lock table, and
the instants of the attempts. -/
structure AcquireOutcome (σ : Type) where
  ending : AcquireEnding
  now : Instant
  state : σ
  attempts : List Instant

/-- Whether a deadline has come. -/
def deadlineReached (deadline : Expiration) (now : Instant) : Bool :=
  match deadline with
  | none => false
  | some ending => ending ≤ now

/-- Attempts to take a key, with a pause after each attempt that finds it held, up to
a deadline. There is no outcome if more than a given number of attempts is needed. -/
def Lock.attempts {σ : Type} (lock : Lock σ) (pause : Pause) (key : String) (ttl : Duration)
    (deadline : Expiration) : Nat → Instant → σ → Option (AcquireOutcome σ)
  | 0, _, _ => none
  | limit + 1, now, state =>
    match lock.tryAcquire key ttl now state with
    | (.error error, state) => some ⟨.failed error, now, state, [now]⟩
    | (.ok true, state) => some ⟨.acquired, now, state, [now]⟩
    | (.ok false, state) =>
      match pause now with
      | .error (ending, later) => some ⟨ending, later, state, [now]⟩
      | .ok later =>
        if deadlineReached deadline later then
          some ⟨.failed (.conflict key), later, state, [now]⟩
        else
          (lock.attempts pause key ttl deadline limit later state).map fun outcome =>
            { outcome with attempts := now :: outcome.attempts }

/-- Acquires a key from now on until a timeout. -/
def Lock.acquireWithin {σ : Type} (lock : Lock σ) (pause : Pause) (limit : Nat) (key : String)
    (ttl timeout : Duration) (now : Instant) (state : σ) : Option (AcquireOutcome σ) :=
  lock.attempts pause key ttl (.after now timeout) limit now state

/-- More attempts than there can be pauses of some length within the range of a clock. -/
def attemptLimit : Nat := Instant.bound + 1

/-- Acquires a key, sleeping between attempts. -/
def Lock.acquire {σ : Type} (lock : Lock σ) (config : LockConfig) (key : String)
    (ttl timeout : Duration) (now : Instant) (state : σ) : Option (AcquireOutcome σ) :=
  lock.acquireWithin (.sleep config.retryInterval) attemptLimit key ttl timeout now state

/-- Acquires a key as a task does, which is told what to wait on for an interval. -/
def Lock.acquireAsync {σ : Type} (lock : Lock σ) (wait : Duration → Pause) (config : LockConfig)
    (key : String) (ttl timeout : Duration) (now : Instant) (state : σ) :
    Option (AcquireOutcome σ) :=
  lock.acquireWithin (wait config.retryInterval) attemptLimit key ttl timeout now state

end Provision

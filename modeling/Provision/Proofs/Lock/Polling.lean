import Mathlib.Algebra.Order.Floor.Div
import Provision.Lock.Retry
import Provision.Proofs.Run

/-! The schedule of an acquisition with retries, for any lock table. Attempts are made at
given instants one after the other; each is answered from the state that the ones before
it left. The first attempt that is not refused ends the acquisition, and if all that fit
before the deadline are refused, it ends after one pause more. If the pauses are of one
length, both are found by dividing the timeout by it. -/

set_option autoImplicit false

namespace Provision

/-- How an acquisition ends with the answer to its last attempt. -/
def AcquireEnding.ofAnswer (key : String) : Except LockError Bool → AcquireEnding
  | .ok true => .acquired
  | .ok false => .failed (.conflict key)
  | .error error => .failed error

namespace Lock

variable {σ : Type} (lock : Lock σ) (key : String) (ttl : Duration) (schedule : Nat → Instant)
  (state : σ)

/-- The state after some attempts at the instants of a schedule. -/
def stateAfter : Nat → σ
  | 0 => state
  | count + 1 => (lock.tryAcquire key ttl (schedule count) (stateAfter count)).2

/-- The answer to a numbered attempt, when all before it were made. -/
def answerOf (number : Nat) : Except LockError Bool :=
  (lock.tryAcquire key ttl (schedule number) (lock.stateAfter key ttl schedule state number)).1

variable {lock key ttl schedule state} {pause : Pause} {deadline : Expiration} {count limit : Nat}

theorem attempts_of_settled {now : Instant}
    (settled : (lock.tryAcquire key ttl now state).1 ≠ .ok false) :
    lock.attempts pause key ttl deadline (limit + 1) now state =
      some ⟨.ofAnswer key (lock.tryAcquire key ttl now state).1, now,
        (lock.tryAcquire key ttl now state).2, [now]⟩ := by
  unfold attempts
  generalize lock.tryAcquire key ttl now state = attempt at settled ⊢
  obtain ⟨answer, next⟩ := attempt
  cases answer with
  | error error => rfl
  | ok granted =>
    cases granted with
    | true => rfl
    | false => exact absurd rfl settled

theorem attempts_of_late {now later : Instant}
    (refused : (lock.tryAcquire key ttl now state).1 = .ok false)
    (paused : pause now = .ok later) (late : deadlineReached deadline later = true) :
    lock.attempts pause key ttl deadline (limit + 1) now state =
      some ⟨.failed (.conflict key), later, (lock.tryAcquire key ttl now state).2, [now]⟩ := by
  unfold attempts
  generalize lock.tryAcquire key ttl now state = attempt at refused ⊢
  obtain ⟨answer, next⟩ := attempt
  cases refused
  simp only [paused, late, if_true]

theorem attempts_of_interrupted {now later : Instant} {ending : AcquireEnding}
    (refused : (lock.tryAcquire key ttl now state).1 = .ok false)
    (interrupted : pause now = .error (ending, later)) :
    lock.attempts pause key ttl deadline (limit + 1) now state =
      some ⟨ending, later, (lock.tryAcquire key ttl now state).2, [now]⟩ := by
  unfold attempts
  generalize lock.tryAcquire key ttl now state = attempt at refused ⊢
  obtain ⟨answer, next⟩ := attempt
  cases refused
  simp only [interrupted]

theorem attempts_of_early {now later : Instant}
    (refused : (lock.tryAcquire key ttl now state).1 = .ok false)
    (paused : pause now = .ok later) (early : deadlineReached deadline later = false) :
    lock.attempts pause key ttl deadline (limit + 1) now state =
      (lock.attempts pause key ttl deadline limit later
        (lock.tryAcquire key ttl now state).2).map fun outcome =>
          { outcome with attempts := now :: outcome.attempts } := by
  rw [attempts]
  generalize lock.tryAcquire key ttl now state = attempt at refused ⊢
  obtain ⟨answer, next⟩ := attempt
  cases refused
  simp only [paused, early, Bool.false_eq_true, if_false]

/-- Attempts that are refused before the deadline only add themselves to the outcome. -/
theorem attempts_of_refused
    (refused : ∀ number < count, lock.answerOf key ttl schedule state number = .ok false)
    (paused : ∀ number < count, pause (schedule number) = .ok (schedule (number + 1)))
    (early : ∀ number < count, deadlineReached deadline (schedule (number + 1)) = false) :
    lock.attempts pause key ttl deadline (count + limit) (schedule 0) state =
      (lock.attempts pause key ttl deadline limit (schedule count)
        (lock.stateAfter key ttl schedule state count)).map fun outcome =>
          { outcome with attempts := (List.range count).map schedule ++ outcome.attempts } := by
  -- One attempt more at the end: the limit left after the others has to cover it.
  induction count generalizing limit with
  | zero => simp [stateAfter]
  | succ count ih =>
    have shifted : count + 1 + limit = count + (limit + 1) := by omega
    rw [shifted, ih (fun number below => refused number (by omega))
      (fun number below => paused number (by omega))
      (fun number below => early number (by omega))]
    have last : (lock.tryAcquire key ttl (schedule count)
        (lock.stateAfter key ttl schedule state count)).1 = .ok false :=
      refused count (by omega)
    rw [attempts_of_early last (paused count (by omega)) (early count (by omega)), Option.map_map]
    congr 1
    funext outcome
    simp [List.range_succ]

/-- The first attempt that is not refused ends the acquisition. -/
theorem attempts_settled {start : Instant} (begins : schedule 0 = start) (enough : count < limit)
    (refused : ∀ number < count, lock.answerOf key ttl schedule state number = .ok false)
    (settled : lock.answerOf key ttl schedule state count ≠ .ok false)
    (paused : ∀ number < count, pause (schedule number) = .ok (schedule (number + 1)))
    (early : ∀ number < count, deadlineReached deadline (schedule (number + 1)) = false) :
    lock.attempts pause key ttl deadline limit start state =
      some ⟨.ofAnswer key (lock.answerOf key ttl schedule state count), schedule count,
        lock.stateAfter key ttl schedule state (count + 1),
        (List.range (count + 1)).map schedule⟩ := by
  subst begins
  obtain ⟨rest, rfl⟩ : ∃ rest, limit = count + (rest + 1) := ⟨limit - count - 1, by omega⟩
  rw [attempts_of_refused refused paused early, attempts_of_settled settled, List.range_succ]
  simp [answerOf, stateAfter]

/-- If all attempts are refused, the last one being the last before the deadline, the
acquisition ends in a conflict after one pause more. -/
theorem attempts_timedOut {start : Instant} (begins : schedule 0 = start) (enough : count < limit)
    (refused : ∀ number ≤ count, lock.answerOf key ttl schedule state number = .ok false)
    (paused : ∀ number ≤ count, pause (schedule number) = .ok (schedule (number + 1)))
    (early : ∀ number < count, deadlineReached deadline (schedule (number + 1)) = false)
    (late : deadlineReached deadline (schedule (count + 1)) = true) :
    lock.attempts pause key ttl deadline limit start state =
      some ⟨.failed (.conflict key), schedule (count + 1),
        lock.stateAfter key ttl schedule state (count + 1),
        (List.range (count + 1)).map schedule⟩ := by
  subst begins
  obtain ⟨rest, rfl⟩ : ∃ rest, limit = count + (rest + 1) := ⟨limit - count - 1, by omega⟩
  rw [attempts_of_refused (fun number below => refused number (by omega))
    (fun number below => paused number (by omega)) early,
    attempts_of_late (refused count (Nat.le_refl count)) (paused count (Nat.le_refl count)) late,
    List.range_succ]
  simp [stateAfter]

/-- If the pause after a refused attempt is cut short, the acquisition ends there. -/
theorem attempts_cutShort {start later : Instant} {ending : AcquireEnding}
    (begins : schedule 0 = start) (enough : count < limit)
    (refused : ∀ number ≤ count, lock.answerOf key ttl schedule state number = .ok false)
    (paused : ∀ number < count, pause (schedule number) = .ok (schedule (number + 1)))
    (early : ∀ number < count, deadlineReached deadline (schedule (number + 1)) = false)
    (interrupted : pause (schedule count) = .error (ending, later)) :
    lock.attempts pause key ttl deadline limit start state =
      some ⟨ending, later, lock.stateAfter key ttl schedule state (count + 1),
        (List.range (count + 1)).map schedule⟩ := by
  subst begins
  obtain ⟨rest, rfl⟩ : ∃ rest, limit = count + (rest + 1) := ⟨limit - count - 1, by omega⟩
  rw [attempts_of_refused (fun number below => refused number (by omega)) paused early,
    attempts_of_interrupted (refused count (Nat.le_refl count)) interrupted, List.range_succ]
  simp [stateAfter]

end Lock

/-! ## Pauses of one length -/

/-- The instant some pauses of one length later. -/
def Instant.afterPauses (now : Instant) (interval : Duration) (count : Nat) : Instant :=
  ⟨now.nanos + count * interval.nanos⟩

/-- How many pauses of one length it takes to reach a timeout. One is always made. -/
def rounds (timeout interval : Duration) : Nat :=
  max 1 (timeout.nanos ⌈/⌉ interval.nanos)

theorem lt_ceilDiv_iff {time interval count : Nat} (positive : 0 < interval) :
    count < time ⌈/⌉ interval ↔ count * interval < time := by
  rw [← not_le, ceilDiv_le_iff_le_mul positive, not_le, Nat.mul_comm]

section Pauses

variable {now : Instant} {timeout interval : Duration} {count : Nat}

@[simp] theorem Instant.afterPauses_zero : now.afterPauses interval 0 = now := by
  simp [afterPauses]

theorem Instant.afterPauses_le {earlier : Nat} (order : earlier ≤ count) :
    now.afterPauses interval earlier ≤ now.afterPauses interval count :=
  Nat.add_le_add_left (Nat.mul_le_mul_right interval.nanos order) now.nanos

theorem mul_lt_of_lt_rounds (positive : 0 < interval.nanos) (started : 0 < count)
    (fits : count < rounds timeout interval) : count * interval.nanos < timeout.nanos := by
  rw [← lt_ceilDiv_iff positive]
  unfold rounds at fits
  omega

theorem timeout_le_rounds (positive : 0 < interval.nanos) :
    timeout.nanos ≤ rounds timeout interval * interval.nanos := by
  have reached : timeout.nanos ⌈/⌉ interval.nanos ≤ rounds timeout interval := le_max_right ..
  rwa [ceilDiv_le_iff_le_mul positive, Nat.mul_comm] at reached

theorem rounds_pos : 0 < rounds timeout interval :=
  Nat.lt_of_lt_of_le Nat.zero_lt_one (le_max_left ..)

/-- The last pause begins before the timeout, or is the only one. -/
theorem rounds_le_timeout (positive : 0 < interval.nanos) :
    rounds timeout interval * interval.nanos ≤ timeout.nanos + interval.nanos := by
  obtain ⟨before, same⟩ : ∃ before, rounds timeout interval = before + 1 :=
    Nat.exists_eq_add_one.mpr rounds_pos
  rw [same, Nat.succ_mul]
  rcases Nat.eq_zero_or_pos before with rfl | started
  · simp
  · have fits : before < rounds timeout interval := by omega
    have begun := mul_lt_of_lt_rounds positive started fits
    omega

/-- Each pause is over an interval later, as long as that instant can be represented. -/
def Pause.IsExact (pause : Pause) (interval : Duration) (start : Instant) : Prop :=
  ∀ count, (start.afterPauses interval (count + 1)).nanos < Instant.bound →
    pause (start.afterPauses interval count) = .ok (start.afterPauses interval (count + 1))

theorem Instant.afterPauses_succ :
    (now.afterPauses interval (count + 1)).nanos =
      (now.afterPauses interval count).nanos + interval.nanos := by
  simp only [afterPauses, Nat.succ_mul, Nat.add_assoc]

theorem Instant.add?_afterPauses
    (inRange : (now.afterPauses interval (count + 1)).nanos < Instant.bound) :
    (now.afterPauses interval count).add? interval =
      some (now.afterPauses interval (count + 1)) :=
  add?_eq_some_iff.mpr ⟨afterPauses_succ, afterPauses_succ ▸ inRange⟩

theorem Pause.sleep_isExact : (Pause.sleep interval).IsExact interval now := by
  intro count inRange
  simp only [sleep, Instant.add?_afterPauses inRange]

theorem deadlineReached_afterPauses (inRange : now.nanos + timeout.nanos < Instant.bound) :
    deadlineReached (.after now timeout) (now.afterPauses interval count) =
      decide (timeout.nanos ≤ count * interval.nanos) := by
  have ending : now.add? timeout = some ⟨now.nanos + timeout.nanos⟩ :=
    Instant.add?_eq_some_iff.mpr ⟨rfl, inRange⟩
  simp [deadlineReached, Expiration.after, ending, Instant.le_def, Instant.afterPauses]

theorem early_of_lt_rounds (positive : 0 < interval.nanos)
    (fits : count + 1 < rounds timeout interval) :
    deadlineReached (.after now timeout) (now.afterPauses interval (count + 1)) = false := by
  by_cases inRange : now.nanos + timeout.nanos < Instant.bound
  · have before := mul_lt_of_lt_rounds positive (Nat.succ_pos count) fits
    rw [deadlineReached_afterPauses inRange]
    simpa using before
  · have never : now.add? timeout = none := Instant.add?_eq_none_iff.mpr (Nat.le_of_not_lt inRange)
    simp [deadlineReached, Expiration.after, never]

/-- If the pauses that reach a timeout are within the range of the clock, so is the deadline. -/
theorem late_of_rounds (positive : 0 < interval.nanos)
    (inRange : (now.afterPauses interval (rounds timeout interval)).nanos < Instant.bound) :
    deadlineReached (.after now timeout) (now.afterPauses interval (rounds timeout interval)) =
      true := by
  have reached : timeout.nanos ≤ rounds timeout interval * interval.nanos :=
    timeout_le_rounds positive
  simp only [Instant.afterPauses] at inRange
  rw [deadlineReached_afterPauses (by omega)]
  exact decide_eq_true reached

theorem lt_attemptLimit (positive : 0 < interval.nanos)
    (inRange : (now.afterPauses interval count).nanos < Instant.bound) : count < attemptLimit := by
  have counted := Nat.le_mul_of_pos_right count positive
  simp only [Instant.afterPauses] at inRange
  unfold attemptLimit
  omega

theorem rounds_inRange (positive : 0 < interval.nanos)
    (inRange : now.nanos + timeout.nanos + interval.nanos < Instant.bound) :
    (now.afterPauses interval (rounds timeout interval)).nanos < Instant.bound := by
  have bounded : rounds timeout interval * interval.nanos ≤ timeout.nanos + interval.nanos :=
    rounds_le_timeout positive
  simp only [Instant.afterPauses]
  omega

end Pauses

namespace Lock

variable {σ : Type} {lock : Lock σ} {key : String} {ttl timeout interval : Duration}
  {now : Instant} {state : σ} {count : Nat}

section Exact

variable {pause : Pause} (positive : 0 < interval.nanos) (exactly : pause.IsExact interval now)

include positive exactly

/-- An attempt that is not refused, and that is made before the timeout or at once, is the
last one. -/
theorem acquireWithin_settled (fits : count < rounds timeout interval)
    (inRange : (now.afterPauses interval count).nanos < Instant.bound)
    (refused : ∀ number < count,
      lock.answerOf key ttl (now.afterPauses interval) state number = .ok false)
    (settled : lock.answerOf key ttl (now.afterPauses interval) state count ≠ .ok false) :
    lock.acquireWithin pause attemptLimit key ttl timeout now state =
      some ⟨.ofAnswer key (lock.answerOf key ttl (now.afterPauses interval) state count),
        now.afterPauses interval count,
        lock.stateAfter key ttl (now.afterPauses interval) state (count + 1),
        (List.range (count + 1)).map (now.afterPauses interval)⟩ := by
  have paused : ∀ number < count, pause (now.afterPauses interval number) =
      .ok (now.afterPauses interval (number + 1)) :=
    fun number below => exactly number (Nat.lt_of_le_of_lt (Instant.afterPauses_le below) inRange)
  have early : ∀ number < count,
      deadlineReached (.after now timeout) (now.afterPauses interval (number + 1)) = false :=
    fun number below => early_of_lt_rounds positive (by omega)
  exact attempts_settled Instant.afterPauses_zero (lt_attemptLimit positive inRange) refused
    settled paused early

/-- If all attempts that are made before the timeout are refused, the first one in any
case, the acquisition ends in a conflict at the end of the pause that reaches the timeout. -/
theorem acquireWithin_timedOut
    (inRange : (now.afterPauses interval (rounds timeout interval)).nanos < Instant.bound)
    (refused : ∀ number < rounds timeout interval,
      lock.answerOf key ttl (now.afterPauses interval) state number = .ok false) :
    lock.acquireWithin pause attemptLimit key ttl timeout now state =
      some ⟨.failed (.conflict key), now.afterPauses interval (rounds timeout interval),
        lock.stateAfter key ttl (now.afterPauses interval) state (rounds timeout interval),
        (List.range (rounds timeout interval)).map (now.afterPauses interval)⟩ := by
  have late := late_of_rounds positive inRange
  have limited := lt_attemptLimit positive inRange
  obtain ⟨last, same⟩ : ∃ last, rounds timeout interval = last + 1 :=
    Nat.exists_eq_add_one.mpr rounds_pos
  rw [same] at inRange refused late limited ⊢
  have paused : ∀ number ≤ last, pause (now.afterPauses interval number) =
      .ok (now.afterPauses interval (number + 1)) := fun number below =>
    exactly number (Nat.lt_of_le_of_lt (Instant.afterPauses_le (Nat.succ_le_succ below)) inRange)
  have early : ∀ number < last,
      deadlineReached (.after now timeout) (now.afterPauses interval (number + 1)) = false :=
    fun number below => early_of_lt_rounds positive (by omega)
  exact attempts_timedOut Instant.afterPauses_zero (by omega)
    (fun number below => refused number (by omega)) paused early late

end Exact

section Sleeping

variable (positive : 0 < interval.nanos)
  (inRange : now.nanos + timeout.nanos + interval.nanos < Instant.bound)

include positive inRange

theorem acquire_settled (fits : count < rounds timeout interval)
    (refused : ∀ number < count,
      lock.answerOf key ttl (now.afterPauses interval) state number = .ok false)
    (settled : lock.answerOf key ttl (now.afterPauses interval) state count ≠ .ok false) :
    lock.acquire ⟨interval⟩ key ttl timeout now state =
      some ⟨.ofAnswer key (lock.answerOf key ttl (now.afterPauses interval) state count),
        now.afterPauses interval count,
        lock.stateAfter key ttl (now.afterPauses interval) state (count + 1),
        (List.range (count + 1)).map (now.afterPauses interval)⟩ := by
  have last : (now.afterPauses interval count).nanos < Instant.bound :=
    Nat.lt_of_le_of_lt (Instant.afterPauses_le (Nat.le_of_lt fits))
      (rounds_inRange positive inRange)
  exact acquireWithin_settled positive Pause.sleep_isExact fits last refused settled

theorem acquire_timedOut
    (refused : ∀ number < rounds timeout interval,
      lock.answerOf key ttl (now.afterPauses interval) state number = .ok false) :
    lock.acquire ⟨interval⟩ key ttl timeout now state =
      some ⟨.failed (.conflict key), now.afterPauses interval (rounds timeout interval),
        lock.stateAfter key ttl (now.afterPauses interval) state (rounds timeout interval),
        (List.range (rounds timeout interval)).map (now.afterPauses interval)⟩ :=
  acquireWithin_timedOut positive Pause.sleep_isExact (rounds_inRange positive inRange) refused

end Sleeping

end Lock

end Provision

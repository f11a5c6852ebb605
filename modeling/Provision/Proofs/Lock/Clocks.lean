import Mathlib.Data.Nat.Find
import Provision.Lock.Scripted
import Provision.Lock.Timer
import Provision.Proofs.Lock.Polling

/-! An acquisition that sleeps and one that waits on a timer, each by a clock of its own.
If the answers of a lock table depend on which attempt it is and not on when it is made,
the two make their attempts at the same times from their starts on, and they end alike. A
deadline that one of the clocks can represent and the other one cannot makes no
difference, as long as both clocks can represent the instants that are reached. -/

set_option autoImplicit false

namespace Provision

/-! ## Timers that ring on time -/

theorem Pause.ring_eq_target {now target : Instant} (whole : tick ∣ now.nanos)
    (wholeTarget : tick ∣ target.nanos) (order : now ≤ target) : ring now target = target := by
  obtain ⟨ticks, counted⟩ := whole
  obtain ⟨targetTicks, targetCounted⟩ := wholeTarget
  have order : now.nanos ≤ target.nanos := order
  apply Instant.ext_iff_nanos.mpr
  simp only [ring, tick] at counted targetCounted ⊢
  omega

/-- A timer is exact from a whole millisecond on, for pauses of whole milliseconds that
are not longer than it can be set for. -/
theorem Pause.timer_isExact {start : Instant} {interval : Duration} (whole : tick ∣ start.nanos)
    (wholeInterval : tick ∣ interval.nanos) (near : interval.nanos ≤ farAhead.nanos) :
    (timer interval none).IsExact interval start := by
  intro count inRange
  have wholeAfter (number : Nat) : tick ∣ (start.afterPauses interval number).nanos :=
    Nat.dvd_add whole (Nat.dvd_mul_left_of_dvd wholeInterval number)
  have aim : target (start.afterPauses interval count) interval =
      some (start.afterPauses interval (count + 1)) := by
    rw [target, if_neg (Nat.not_lt.mpr near), Instant.add?_afterPauses inRange]
  have rings : ring (start.afterPauses interval count) (start.afterPauses interval (count + 1)) =
      start.afterPauses interval (count + 1) :=
    ring_eq_target (wholeAfter count) (wholeAfter (count + 1))
      (Instant.afterPauses_le (Nat.le_succ count))
  simp only [timer, aim, rings]

namespace Lock

variable {σ : Type} {lock : Lock σ} {key : String} {ttl timeout interval : Duration}
  {now now' : Instant} {state : σ} {count : Nat}

/-- Each attempt is answered alike at whatever instants it and those before it are made. -/
def Untimed (lock : Lock σ) (key : String) (ttl : Duration) (state : σ) : Prop :=
  ∀ (schedule schedule' : Nat → Instant) (number : Nat),
    lock.answerOf key ttl schedule state number = lock.answerOf key ttl schedule' state number

theorem untimed_of_step
    (same : ∀ now now' state, lock.tryAcquire key ttl now state = lock.tryAcquire key ttl now' state)
    (state : σ) : lock.Untimed key ttl state := by
  intro schedule schedule' number
  have states (count : Nat) : lock.stateAfter key ttl schedule state count =
      lock.stateAfter key ttl schedule' state count := by
    induction count with
    | zero => rfl
    | succ count ih => rw [stateAfter, stateAfter, ih, same]
  rw [answerOf, answerOf, states, same]

/-! ## The number of pauses -/

/-- An acquisition is over after some pauses: they reach the timeout, or the attempt after
them is not refused. -/
def IsOver (lock : Lock σ) (key : String) (ttl timeout interval : Duration) (now : Instant)
    (state : σ) (count : Nat) : Prop :=
  rounds timeout interval ≤ count ∨
    lock.answerOf key ttl (now.afterPauses interval) state count ≠ .ok false

instance : DecidablePred (lock.IsOver key ttl timeout interval now state) :=
  fun _ => inferInstanceAs (Decidable (_ ∨ _))

theorem exists_isOver (lock : Lock σ) (key : String) (ttl timeout interval : Duration)
    (now : Instant) (state : σ) : ∃ count, lock.IsOver key ttl timeout interval now state count :=
  ⟨rounds timeout interval, .inl (Nat.le_refl _)⟩

/-- The number of pauses of an acquisition whose pauses are of one length. -/
def pauses (lock : Lock σ) (key : String) (ttl timeout interval : Duration) (now : Instant)
    (state : σ) : Nat :=
  Nat.find (lock.exists_isOver key ttl timeout interval now state)

theorem pauses_le
    (settled : lock.answerOf key ttl (now.afterPauses interval) state count ≠ .ok false) :
    lock.pauses key ttl timeout interval now state ≤ count :=
  Nat.find_min' _ (.inr settled)

theorem refused_of_lt_pauses (before : count < lock.pauses key ttl timeout interval now state) :
    count < rounds timeout interval ∧
      lock.answerOf key ttl (now.afterPauses interval) state count = .ok false := by
  have goesOn : ¬ lock.IsOver key ttl timeout interval now state count := Nat.find_min _ before
  unfold IsOver at goesOn
  rw [not_or, not_le, not_not] at goesOn
  exact goesOn

/-- Either an attempt is not refused, or all pauses up to the timeout are made. -/
theorem pauses_cases (lock : Lock σ) (key : String) (ttl timeout interval : Duration)
    (now : Instant) (state : σ) :
    lock.pauses key ttl timeout interval now state < rounds timeout interval ∧
        lock.answerOf key ttl (now.afterPauses interval) state
          (lock.pauses key ttl timeout interval now state) ≠ .ok false ∨
      lock.pauses key ttl timeout interval now state = rounds timeout interval := by
  have ended : lock.IsOver key ttl timeout interval now state
      (lock.pauses key ttl timeout interval now state) := Nat.find_spec _
  have most : lock.pauses key ttl timeout interval now state ≤ rounds timeout interval :=
    Nat.find_min' _ (.inl (Nat.le_refl _))
  rcases Nat.lt_or_eq_of_le most with fewer | all
  · rcases ended with reached | settled
    · exact absurd reached (Nat.not_le.mpr fewer)
    · exact .inl ⟨fewer, settled⟩
  · exact .inr all

theorem Untimed.pauses_eq (untimed : lock.Untimed key ttl state) (now now' : Instant) :
    lock.pauses key ttl timeout interval now state =
      lock.pauses key ttl timeout interval now' state := by
  refine Nat.find_congr' ?_
  intro count
  unfold IsOver
  rw [untimed (now.afterPauses interval) (now'.afterPauses interval)]

/-- The number of the last attempt. No attempt follows the pauses that reach the timeout. -/
def lastAttempt (lock : Lock σ) (key : String) (ttl timeout interval : Duration) (now : Instant)
    (state : σ) : Nat :=
  min (lock.pauses key ttl timeout interval now state) (rounds timeout interval - 1)

/-! ## One clock and two clocks -/

/-- An acquisition with exact pauses ends by the answer to its last attempt, and the number
of pauses tells when it makes its attempts and when it ends. -/
theorem acquireWithin_of_exact {pause : Pause} (positive : 0 < interval.nanos)
    (exactly : pause.IsExact interval now)
    (inRange : (now.afterPauses interval
      (lock.pauses key ttl timeout interval now state)).nanos < Instant.bound) :
    ∃ left, lock.acquireWithin pause attemptLimit key ttl timeout now state =
      some ⟨.ofAnswer key (lock.answerOf key ttl (now.afterPauses interval) state
          (lock.lastAttempt key ttl timeout interval now state)),
        now.afterPauses interval (lock.pauses key ttl timeout interval now state), left,
        (List.range (lock.lastAttempt key ttl timeout interval now state + 1)).map
          (now.afterPauses interval)⟩ := by
  have refused : ∀ number < lock.pauses key ttl timeout interval now state,
      lock.answerOf key ttl (now.afterPauses interval) state number = .ok false :=
    fun number before => (refused_of_lt_pauses before).2
  rcases lock.pauses_cases key ttl timeout interval now state with ⟨fewer, settled⟩ | all
  · have last : lock.lastAttempt key ttl timeout interval now state =
        lock.pauses key ttl timeout interval now state := by
      unfold lastAttempt
      omega
    rw [last]
    exact ⟨_, acquireWithin_settled positive exactly fewer inRange refused settled⟩
  · -- the pause that reaches the timeout is followed by no attempt
    obtain ⟨last, same⟩ : ∃ last, rounds timeout interval = last + 1 :=
      Nat.exists_eq_add_one.mpr rounds_pos
    have numbered : lock.lastAttempt key ttl timeout interval now state = last := by
      unfold lastAttempt
      omega
    have lastRefused : lock.answerOf key ttl (now.afterPauses interval) state last = .ok false :=
      refused last (by omega)
    rw [all] at inRange refused
    rw [numbered, lastRefused, all, ← same]
    exact ⟨_, acquireWithin_timedOut positive exactly inRange refused⟩

/-- If no answer depends on the time, an acquisition that sleeps and one that waits, by
whatever is exact from its start on, make the same number of attempts at the same times
from their starts on, and end alike: with the lock, with the same failure, or in a conflict
over the key. -/
theorem acquiresAlike {lock : Lock σ} {wait : Duration → Pause} {key : String}
    {ttl timeout interval : Duration} {now now' : Instant} {state : σ}
    (untimed : lock.Untimed key ttl state) (positive : 0 < interval.nanos)
    (exactly : (wait interval).IsExact interval now')
    (inRange : (now.afterPauses interval
      (lock.pauses key ttl timeout interval now state)).nanos < Instant.bound)
    (inRange' : (now'.afterPauses interval
      (lock.pauses key ttl timeout interval now' state)).nanos < Instant.bound) :
    ∃ (answer : Except LockError Bool) (last paused : Nat) (left left' : σ),
      lock.acquire ⟨interval⟩ key ttl timeout now state =
        some ⟨.ofAnswer key answer, now.afterPauses interval paused, left,
          (List.range (last + 1)).map (now.afterPauses interval)⟩ ∧
      lock.acquireAsync wait ⟨interval⟩ key ttl timeout now' state =
        some ⟨.ofAnswer key answer, now'.afterPauses interval paused, left',
          (List.range (last + 1)).map (now'.afterPauses interval)⟩ := by
  obtain ⟨left, slept⟩ := acquireWithin_of_exact positive Pause.sleep_isExact inRange
  obtain ⟨left', waited⟩ := acquireWithin_of_exact positive exactly inRange'
  have samePauses : lock.pauses key ttl timeout interval now' state =
      lock.pauses key ttl timeout interval now state := untimed.pauses_eq now' now
  have sameLast : lock.lastAttempt key ttl timeout interval now' state =
      lock.lastAttempt key ttl timeout interval now state := by
    unfold lastAttempt
    rw [samePauses]
  rw [samePauses, sameLast,
    untimed (now'.afterPauses interval) (now.afterPauses interval)] at waited
  exact ⟨_, _, _, left, left', slept, waited⟩

/-- A lock table that refuses two attempts and fails at the third. -/
def outage : ScriptedLock :=
  ⟨[.ok false, .ok false, .error (.backend "down")], none⟩

theorem inRange_outage {start : Instant} (early : start.nanos ≤ 7000000) :
    (start.afterPauses (.ofMillis 250) (ScriptedLock.asLock.pauses "quay" (.ofSeconds 5) .max
      (.ofMillis 250) start outage)).nanos < Instant.bound := by
  have settled : ScriptedLock.asLock.answerOf "quay" (.ofSeconds 5)
      (start.afterPauses (.ofMillis 250)) outage 2 ≠ .ok false := nofun
  have bounded : 7000000 + 2 * (Duration.ofMillis 250).nanos < Instant.bound := by decide +kernel
  refine Nat.lt_of_le_of_lt (Instant.afterPauses_le (pauses_le settled)) ?_
  exact Nat.lt_of_le_of_lt (Nat.add_le_add_right early _) bounded

/-- The longest timeout is past the range of either clock, so that only the failure ends
the attempts. -/
theorem acquiresAlike_outage :
    ScriptedLock.asLock.Untimed "quay" (.ofSeconds 5) outage ∧
      (Pause.timers none ⟨7000000⟩ (.ofMillis 250)).IsExact (.ofMillis 250) ⟨7000000⟩ ∧
      Expiration.after ⟨123⟩ .max = none ∧
      (ScriptedLock.asLock.acquire ⟨.ofMillis 250⟩ "quay" (.ofSeconds 5) .max ⟨123⟩ outage).map
          AcquireOutcome.ending = some (.failed (.backend "down")) ∧
      ∃ (answer : Except LockError Bool) (last paused : Nat) (left left' : ScriptedLock),
        ScriptedLock.asLock.acquire ⟨.ofMillis 250⟩ "quay" (.ofSeconds 5) .max ⟨123⟩ outage =
          some ⟨.ofAnswer "quay" answer, Instant.afterPauses ⟨123⟩ (.ofMillis 250) paused, left,
            (List.range (last + 1)).map (Instant.afterPauses ⟨123⟩ (.ofMillis 250))⟩ ∧
        ScriptedLock.asLock.acquireAsync (Pause.timers none ⟨7000000⟩) ⟨.ofMillis 250⟩ "quay"
            (.ofSeconds 5) .max ⟨7000000⟩ outage =
          some ⟨.ofAnswer "quay" answer, Instant.afterPauses ⟨7000000⟩ (.ofMillis 250) paused,
            left', (List.range (last + 1)).map (Instant.afterPauses ⟨7000000⟩ (.ofMillis 250))⟩ := by
  have untimed : ScriptedLock.asLock.Untimed "quay" (.ofSeconds 5) outage :=
    untimed_of_step (fun _ _ _ => rfl) outage
  have positive : 0 < (Duration.ofMillis 250).nanos := by decide
  have exactly : (Pause.timers none ⟨7000000⟩ (.ofMillis 250)).IsExact (.ofMillis 250) ⟨7000000⟩ :=
    Pause.timer_isExact ⟨7, rfl⟩ ⟨250, rfl⟩ (by decide +kernel)
  have outOfRange : Expiration.after ⟨123⟩ .max = none := by decide +kernel
  exact ⟨untimed, exactly, outOfRange, by decide +kernel, acquiresAlike untimed positive exactly
    (inRange_outage (by decide)) (inRange_outage (by decide))⟩

end Lock

end Provision

import Provision.Proofs.Lock.Clocks

/-! What an acquisition that sleeps comes to, whatever the lock table answers and whatever
its answers depend on. Attempts are made one interval apart, from the start on, and the
first one that is not refused ends the acquisition with its answer. As many attempts are
made as there are intervals begun before the timeout, and at least one; if all of them are
refused, a conflict is reported after the pause that reaches the timeout. -/

set_option autoImplicit false

namespace Provision

/-- An acquisition ends in some way, after attempts one interval apart, and with as many
pauses behind it. The lock table is as the attempts left it. -/
structure EndsAfter {σ : Type} (lock : Lock σ) (key : String) (ttl interval : Duration)
    (now : Instant) (state : σ) (made paused : Nat) (ending : AcquireEnding)
    (outcome : AcquireOutcome σ) : Prop where
  ending : outcome.ending = ending
  attempts : outcome.attempts = (List.range made).map (now.afterPauses interval)
  instant : outcome.now = now.afterPauses interval paused
  left : outcome.state = lock.stateAfter key ttl (now.afterPauses interval) state made

/-- A conflict that an acquisition reports of its own: over its key, not before the timeout,
and at most an interval after it. -/
structure TimelyConflict (key other : String) (timeout interval : Duration)
    (now ended : Instant) : Prop where
  key : other = key
  notBefore : now.nanos + timeout.nanos ≤ ended.nanos
  soonAfter : ended.nanos ≤ now.nanos + timeout.nanos + interval.nanos

/-- The outcome of an acquisition in terms of the answers to its attempts. A conflict that
is not the answer of the lock table itself is the one that follows on the timeout. -/
structure FollowsSchedule {σ : Type} (lock : Lock σ) (key : String)
    (ttl timeout interval : Duration) (now : Instant) (state : σ)
    (result : Option (AcquireOutcome σ)) : Prop where
  granted (count : Nat) : count < rounds timeout interval →
    (∀ number < count, lock.answerOf key ttl (now.afterPauses interval) state number = .ok false) →
    lock.answerOf key ttl (now.afterPauses interval) state count = .ok true →
    ∃ outcome ∈ result,
      EndsAfter lock key ttl interval now state (count + 1) count .acquired outcome
  failed (count : Nat) (error : LockError) : count < rounds timeout interval →
    (∀ number < count, lock.answerOf key ttl (now.afterPauses interval) state number = .ok false) →
    lock.answerOf key ttl (now.afterPauses interval) state count = .error error →
    ∃ outcome ∈ result,
      EndsAfter lock key ttl interval now state (count + 1) count (.failed error) outcome
  timedOut : (∀ number < rounds timeout interval,
      lock.answerOf key ttl (now.afterPauses interval) state number = .ok false) →
    ∃ outcome ∈ result,
      EndsAfter lock key ttl interval now state (rounds timeout interval)
        (rounds timeout interval) (.failed (.conflict key)) outcome
  conflict (outcome : AcquireOutcome σ) (other : String) : outcome ∈ result →
    outcome.ending = .failed (.conflict other) →
    (∃ number < rounds timeout interval, outcome.now = now.afterPauses interval number ∧
      lock.answerOf key ttl (now.afterPauses interval) state number = .error (.conflict other)) ∨
    TimelyConflict key other timeout interval now outcome.now

namespace Lock

variable {σ : Type} {lock : Lock σ} {key : String} {ttl timeout interval : Duration}
  {now : Instant} {state : σ} {count : Nat}

section Ends

variable (positive : 0 < interval.nanos)
  (inRange : now.nanos + timeout.nanos + interval.nanos < Instant.bound)

include positive inRange

theorem endsAfter_of_settled (fits : count < rounds timeout interval)
    (refused : ∀ number < count,
      lock.answerOf key ttl (now.afterPauses interval) state number = .ok false)
    {answer : Except LockError Bool}
    (answered : lock.answerOf key ttl (now.afterPauses interval) state count = answer)
    (settled : answer ≠ .ok false) :
    ∃ outcome ∈ lock.acquire ⟨interval⟩ key ttl timeout now state,
      EndsAfter lock key ttl interval now state (count + 1) count (.ofAnswer key answer)
        outcome := by
  subst answered
  exact ⟨_, acquire_settled positive inRange fits refused settled, rfl, rfl, rfl, rfl⟩

theorem endsAfter_of_refused
    (refused : ∀ number < rounds timeout interval,
      lock.answerOf key ttl (now.afterPauses interval) state number = .ok false) :
    ∃ outcome ∈ lock.acquire ⟨interval⟩ key ttl timeout now state,
      EndsAfter lock key ttl interval now state (rounds timeout interval)
        (rounds timeout interval) (.failed (.conflict key)) outcome :=
  ⟨_, acquire_timedOut positive inRange refused, rfl, rfl, rfl, rfl⟩

omit inRange in
theorem timelyConflict_afterPauses :
    TimelyConflict key key timeout interval now
      (now.afterPauses interval (rounds timeout interval)) where
  key := rfl
  notBefore := Nat.add_le_add_left (timeout_le_rounds positive) now.nanos
  soonAfter := by
    have bounded : rounds timeout interval * interval.nanos ≤ timeout.nanos + interval.nanos :=
      rounds_le_timeout positive
    simp only [Instant.afterPauses]
    omega

/-- A conflict comes from the lock table or from the timeout. -/
theorem conflict_cases {outcome : AcquireOutcome σ} {other : String}
    (ended : outcome ∈ lock.acquire ⟨interval⟩ key ttl timeout now state)
    (conflict : outcome.ending = .failed (.conflict other)) :
    (∃ number < rounds timeout interval, outcome.now = now.afterPauses interval number ∧
      lock.answerOf key ttl (now.afterPauses interval) state number = .error (.conflict other)) ∨
    TimelyConflict key other timeout interval now outcome.now := by
  have refused : ∀ number < lock.pauses key ttl timeout interval now state,
      lock.answerOf key ttl (now.afterPauses interval) state number = .ok false :=
    fun number before => (refused_of_lt_pauses before).2
  -- the acquisition ended with an answer, or with the timeout
  rcases lock.pauses_cases key ttl timeout interval now state with ⟨fewer, settled⟩ | all
  · obtain ⟨reached, made, ends⟩ :=
      endsAfter_of_settled positive inRange fewer refused rfl settled
    cases Option.mem_unique ended made
    refine .inl ⟨_, fewer, ends.instant, ?_⟩
    rw [ends.ending] at conflict
    generalize lock.answerOf key ttl (now.afterPauses interval) state _ = answer at settled conflict
    cases answer with
    | error error => exact congrArg Except.error (AcquireEnding.failed.inj conflict)
    | ok granted =>
      cases granted with
      | true => cases conflict
      | false => exact absurd rfl settled
  · rw [all] at refused
    obtain ⟨reached, made, ends⟩ := endsAfter_of_refused positive inRange refused
    cases Option.mem_unique ended made
    rw [ends.ending] at conflict
    cases conflict
    exact .inr (ends.instant ▸ timelyConflict_afterPauses positive)

end Ends

/-- Attempts are made an interval apart until one is not refused, or until the timeout. -/
theorem followsSchedule (lock : Lock σ) (config : LockConfig) (key : String)
    (ttl timeout : Duration) (now : Instant) (state : σ)
    (positive : 0 < config.retryInterval.nanos)
    (inRange : now.nanos + timeout.nanos + config.retryInterval.nanos < Instant.bound) :
    FollowsSchedule lock key ttl timeout config.retryInterval now state
      (lock.acquire config key ttl timeout now state) := by
  obtain ⟨interval⟩ := config
  constructor
  case granted =>
    intro count fits refused granted
    exact endsAfter_of_settled positive inRange fits refused granted nofun
  case failed =>
    intro count error fits refused failed
    exact endsAfter_of_settled positive inRange fits refused failed nofun
  case timedOut => exact endsAfter_of_refused positive inRange
  case conflict =>
    intro outcome other ended conflict
    exact conflict_cases positive inRange ended conflict

/-- The failure comes at the last attempt before the timeout. With a timeout of two whole
intervals there is no third attempt, and the timeout is met to the nanosecond. -/
theorem followsSchedule_outage :
    0 < (Duration.ofMillis 250).nanos ∧
      Instant.start.nanos + (Duration.ofMillis 501).nanos + (Duration.ofMillis 250).nanos <
        Instant.bound ∧
      rounds (.ofMillis 501) (.ofMillis 250) = 3 ∧
      FollowsSchedule ScriptedLock.asLock "quay" (.ofSeconds 5) (.ofMillis 501) (.ofMillis 250)
        .start outage (ScriptedLock.asLock.acquire ⟨.ofMillis 250⟩ "quay" (.ofSeconds 5)
          (.ofMillis 501) .start outage) ∧
      (ScriptedLock.asLock.acquire ⟨.ofMillis 250⟩ "quay" (.ofSeconds 5) (.ofMillis 501) .start
        outage).map (fun outcome => (outcome.ending, outcome.now)) =
          some (.failed (.backend "down"), ⟨500000000⟩) ∧
      (ScriptedLock.asLock.acquire ⟨.ofMillis 250⟩ "quay" (.ofSeconds 5) (.ofMillis 500) .start
        outage).map (fun outcome => (outcome.ending, outcome.now)) =
          some (.failed (.conflict "quay"), ⟨500000000⟩) := by
  have positive : 0 < (Duration.ofMillis 250).nanos := by decide
  have inRange : Instant.start.nanos + (Duration.ofMillis 501).nanos +
      (Duration.ofMillis 250).nanos < Instant.bound := by decide
  exact ⟨positive, inRange, by decide, followsSchedule ScriptedLock.asLock ⟨.ofMillis 250⟩ "quay"
    (.ofSeconds 5) (.ofMillis 501) .start outage positive inRange, by decide +kernel,
    by decide +kernel⟩

end Lock

end Provision

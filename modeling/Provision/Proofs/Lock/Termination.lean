import Provision.Proofs.Lock.Schedule
import Provision.Proofs.Lock.Waiting

/-! When an acquisition that sleeps comes to an end. A turn of it is an attempt that is
refused and a pause that is over before the deadline, and each turn is followed by another
attempt. Pauses of some length lead to the timeout or to the end of the clock's range. With
pauses of no length the clock stands still, and once the deadline has not come at the start
only an answer can end the acquisition. Pauses are all that moves the clock. Nothing else is
assumed of the lock table: its answers may depend on the time and on all that it was asked
before. -/

set_option autoImplicit false

namespace Provision

namespace Pause

variable {interval : Duration} {now later : Instant}

theorem sleep_eq_ok_iff :
    sleep interval now = .ok later ↔
      later.nanos = now.nanos + interval.nanos ∧ now.nanos + interval.nanos < Instant.bound := by
  rw [← Instant.add?_eq_some_iff, sleep]
  cases now.add? interval with
  | none => simp
  | some target => simp

theorem sleep_of_outOfRange (outOfRange : Instant.bound ≤ now.nanos + interval.nanos) :
    sleep interval now = .error (.clockOverflow, now) := by
  simp only [sleep, Instant.add?_eq_none_iff.mpr outOfRange]

end Pause

namespace Lock

variable {σ : Type}

/-- A turn of an acquisition, from one attempt to the next. -/
structure Turn (lock : Lock σ) (pause : Pause) (key : String) (ttl : Duration)
    (deadline : Expiration) (here next : Instant × σ) : Prop where
  refused : lock.tryAcquire key ttl here.1 here.2 = (.ok false, next.2)
  paused : pause here.1 = .ok next.1
  early : deadlineReached deadline next.1 = false

/-- Turn follows upon turn without end. -/
def RunsForever (lock : Lock σ) (pause : Pause) (key : String) (ttl timeout : Duration)
    (now : Instant) (state : σ) : Prop :=
  ∃ run : Nat → Instant × σ, run 0 = (now, state) ∧
    ∀ number, lock.Turn pause key ttl (.after now timeout) (run number) (run (number + 1))

section Sleeping

variable (lock : Lock σ) (key : String) (ttl timeout interval : Duration) (now : Instant)
  (state : σ)

/-- When a numbered attempt is made, and the state that it finds. -/
def place (number : Nat) : Instant × σ :=
  (now.afterPauses interval number, lock.stateAfter key ttl (now.afterPauses interval) state number)

/-- A numbered attempt of an acquisition that sleeps is followed by another one. -/
structure GoesOn (number : Nat) : Prop where
  refused : lock.answerOf key ttl (now.afterPauses interval) state number = .ok false
  inRange : (now.afterPauses interval (number + 1)).nanos < Instant.bound
  early : deadlineReached (.after now timeout) (now.afterPauses interval (number + 1)) = false

/-- An acquisition that sleeps ends with a numbered attempt: by its answer, at the end of the
clock's range, or at the deadline. -/
inductive EndsAt (last : Nat) (outcome : AcquireOutcome σ) : Prop where
  | answered (settled : lock.answerOf key ttl (now.afterPauses interval) state last ≠ .ok false)
      (ended : EndsAfter lock key ttl interval now state (last + 1) last
        (.ofAnswer key (lock.answerOf key ttl (now.afterPauses interval) state last)) outcome)
  | overflown
      (refused : lock.answerOf key ttl (now.afterPauses interval) state last = .ok false)
      (outOfRange : Instant.bound ≤ (now.afterPauses interval (last + 1)).nanos)
      (ended : EndsAfter lock key ttl interval now state (last + 1) last .clockOverflow outcome)
  | timedOut
      (refused : lock.answerOf key ttl (now.afterPauses interval) state last = .ok false)
      (late : deadlineReached (.after now timeout) (now.afterPauses interval (last + 1)) = true)
      (ended : EndsAfter lock key ttl interval now state (last + 1) (last + 1)
        (.failed (.conflict key)) outcome)

/-- The acquisition ends with a numbered attempt, if it may make that many. -/
def StopsAt (last : Nat) : Prop :=
  ∃ outcome, lock.EndsAt key ttl timeout interval now state last outcome ∧
    ∀ limit, last < limit →
      lock.acquireWithin (.sleep interval) limit key ttl timeout now state = some outcome

/-- The clock does not move, the deadline is not there at once, and the key is refused at
every attempt. -/
structure Stalls : Prop where
  still : interval.nanos = 0
  waiting : timeout.nanos ≠ 0 ∨ Expiration.after now timeout = none
  refused (number : Nat) :
    lock.answerOf key ttl (now.afterPauses interval) state number = .ok false

end Sleeping

variable {lock : Lock σ} {key : String} {ttl timeout interval : Duration} {now : Instant}
  {state : σ} {number last limit : Nat}

/-! ## Turns -/

theorem turn_place_iff {next : Instant × σ} :
    lock.Turn (.sleep interval) key ttl (.after now timeout)
        (lock.place key ttl interval now state number) next ↔
      lock.GoesOn key ttl timeout interval now state number ∧
        next = lock.place key ttl interval now state (number + 1) := by
  obtain ⟨later, left⟩ := next
  constructor
  · intro turn
    obtain ⟨refused, paused, early⟩ := turn
    obtain ⟨reached, inRange⟩ := Pause.sleep_eq_ok_iff.mp paused
    have same : later = now.afterPauses interval (number + 1) :=
      Instant.ext_iff_nanos.mpr (reached.trans Instant.afterPauses_succ.symm)
    have kept : lock.stateAfter key ttl (now.afterPauses interval) state (number + 1) = left :=
      congrArg Prod.snd refused
    subst same kept
    exact ⟨⟨congrArg Prod.fst refused, Instant.afterPauses_succ ▸ inRange, early⟩, rfl⟩
  · intro turned
    obtain ⟨goesOn, same⟩ := turned
    cases same
    exact ⟨Prod.ext goesOn.refused rfl, Pause.sleep_isExact number goesOn.inRange, goesOn.early⟩

/-- The start of an acquisition that sleeps lays down all its turns. -/
theorem runsForever_iff_goesOn :
    lock.RunsForever (.sleep interval) key ttl timeout now state ↔
      ∀ number, lock.GoesOn key ttl timeout interval now state number := by
  have begins : lock.place key ttl interval now state 0 = (now, state) := by
    simp [place, stateAfter]
  constructor
  · intro forever
    obtain ⟨run, starts, turns⟩ := forever
    have placed (number : Nat) : run number = lock.place key ttl interval now state number := by
      induction number with
      | zero => rw [starts, begins]
      | succ number ih => exact (turn_place_iff.mp (ih ▸ turns number)).2
    intro number
    exact (turn_place_iff.mp (placed number ▸ turns number)).1
  · intro goesOn
    refine ⟨lock.place key ttl interval now state, begins, ?_⟩
    intro number
    exact turn_place_iff.mpr ⟨goesOn number, rfl⟩

theorem deadlineReached_of_inRange {count : Nat}
    (inRange : (now.afterPauses interval count).nanos < Instant.bound) :
    deadlineReached (.after now timeout) (now.afterPauses interval count) =
      decide (timeout.nanos ≤ count * interval.nanos) := by
  by_cases comes : now.nanos + timeout.nanos < Instant.bound
  · exact deadlineReached_afterPauses comes
  · -- a deadline past the range is later than any instant in it
    have never : now.add? timeout = none := Instant.add?_eq_none_iff.mpr (Nat.le_of_not_lt comes)
    have before : ¬ timeout.nanos ≤ count * interval.nanos := by
      simp only [Instant.afterPauses] at inRange
      omega
    simp [deadlineReached, Expiration.after, never, before]

theorem goesOn_iff :
    lock.GoesOn key ttl timeout interval now state number ↔
      lock.answerOf key ttl (now.afterPauses interval) state number = .ok false ∧
        (now.afterPauses interval (number + 1)).nanos < Instant.bound ∧
        (number + 1) * interval.nanos < timeout.nanos := by
  constructor
  · intro goesOn
    obtain ⟨refused, inRange, early⟩ := goesOn
    rw [deadlineReached_of_inRange inRange, decide_eq_false_iff_not, Nat.not_le] at early
    exact ⟨refused, inRange, early⟩
  · intro passes
    obtain ⟨refused, inRange, early⟩ := passes
    refine ⟨refused, inRange, ?_⟩
    rw [deadlineReached_of_inRange inRange, decide_eq_false_iff_not, Nat.not_le]
    exact early

theorem goesOn_always_iff (started : now.nanos < Instant.bound) :
    (∀ number, lock.GoesOn key ttl timeout interval now state number) ↔
      lock.Stalls key ttl timeout interval now state := by
  constructor
  · intro goesOn
    refine ⟨?still, ?waiting, fun number => (goesOn number).refused⟩
    case still =>
      -- a clock that moved would have left its range by now
      by_contra moves
      have positive := Nat.pos_of_ne_zero moves
      have reached := Nat.le_mul_of_pos_right (Instant.bound + 1) positive
      have inRange := (goesOn Instant.bound).inRange
      simp only [Instant.afterPauses] at inRange
      omega
    case waiting =>
      have early := (goesOn_iff.mp (goesOn 0)).2.2
      exact .inl (Nat.ne_zero_of_lt early)
  · intro stalls number
    obtain ⟨still, waiting, refused⟩ := stalls
    have waits : 0 < timeout.nanos := by
      rcases waiting with lasts | never
      · exact Nat.pos_of_ne_zero lasts
      · have beyond : Instant.bound ≤ now.nanos + timeout.nanos :=
          Instant.add?_eq_none_iff.mp never
        omega
    refine goesOn_iff.mpr ⟨refused number, ?_, ?_⟩
    · simpa [Instant.afterPauses, still] using started
    · simpa [still] using waits

/-! ## Outcomes -/

theorem acquireWithin_of_goesOn
    (goesOn : ∀ number < limit, lock.GoesOn key ttl timeout interval now state number) :
    lock.acquireWithin (.sleep interval) limit key ttl timeout now state = none := by
  have passed : lock.attempts (.sleep interval) key ttl (.after now timeout) (limit + 0)
      (now.afterPauses interval 0) state = none :=
    attempts_of_refused (fun number below => (goesOn number below).refused)
      (fun number below => Pause.sleep_isExact number (goesOn number below).inRange)
      (fun number below => (goesOn number below).early)
  rw [Instant.afterPauses_zero] at passed
  exact passed

section Ends

variable (before : ∀ number < last, lock.GoesOn key ttl timeout interval now state number)

include before

theorem paused_before (number : Nat) (below : number < last) :
    Pause.sleep interval (now.afterPauses interval number) =
      .ok (now.afterPauses interval (number + 1)) :=
  Pause.sleep_isExact number (before number below).inRange

theorem refused_upTo
    (refused : lock.answerOf key ttl (now.afterPauses interval) state last = .ok false)
    (number : Nat) (most : number ≤ last) :
    lock.answerOf key ttl (now.afterPauses interval) state number = .ok false := by
  rcases Nat.lt_or_eq_of_le most with below | same
  · exact (before number below).refused
  · exact same ▸ refused

theorem stopsAt_of_settled
    (settled : lock.answerOf key ttl (now.afterPauses interval) state last ≠ .ok false) :
    lock.StopsAt key ttl timeout interval now state last := by
  refine ⟨_, ?_, fun limit enough => attempts_settled Instant.afterPauses_zero enough
    (fun number below => (before number below).refused) settled (paused_before before)
    (fun number below => (before number below).early)⟩
  exact .answered settled ⟨rfl, rfl, rfl, rfl⟩

theorem stopsAt_of_outOfRange
    (refused : lock.answerOf key ttl (now.afterPauses interval) state last = .ok false)
    (outOfRange : Instant.bound ≤ (now.afterPauses interval (last + 1)).nanos) :
    lock.StopsAt key ttl timeout interval now state last := by
  have overflows := Pause.sleep_of_outOfRange (Instant.afterPauses_succ ▸ outOfRange)
  refine ⟨_, ?_, fun limit enough => attempts_cutShort Instant.afterPauses_zero enough
    (refused_upTo before refused) (paused_before before)
    (fun number below => (before number below).early) overflows⟩
  exact .overflown refused outOfRange ⟨rfl, rfl, rfl, rfl⟩

theorem stopsAt_of_late
    (refused : lock.answerOf key ttl (now.afterPauses interval) state last = .ok false)
    (inRange : (now.afterPauses interval (last + 1)).nanos < Instant.bound)
    (late : deadlineReached (.after now timeout) (now.afterPauses interval (last + 1)) = true) :
    lock.StopsAt key ttl timeout interval now state last := by
  have paused : ∀ number ≤ last, Pause.sleep interval (now.afterPauses interval number) =
      .ok (now.afterPauses interval (number + 1)) := fun number most =>
    Pause.sleep_isExact number
      (Nat.lt_of_le_of_lt (Instant.afterPauses_le (Nat.succ_le_succ most)) inRange)
  refine ⟨_, ?_, fun limit enough => attempts_timedOut Instant.afterPauses_zero enough
    (refused_upTo before refused) paused (fun number below => (before number below).early) late⟩
  exact .timedOut refused late ⟨rfl, rfl, rfl, rfl⟩

/-- The first attempt that is not followed by another one ends the acquisition. -/
theorem stopsAt_of_not_goesOn (stops : ¬ lock.GoesOn key ttl timeout interval now state last) :
    lock.StopsAt key ttl timeout interval now state last := by
  by_cases refused : lock.answerOf key ttl (now.afterPauses interval) state last = .ok false
  · by_cases inRange : (now.afterPauses interval (last + 1)).nanos < Instant.bound
    · have late :
          deadlineReached (.after now timeout) (now.afterPauses interval (last + 1)) = true := by
        rw [← Bool.not_eq_false]
        intro early
        exact stops ⟨refused, inRange, early⟩
      exact stopsAt_of_late before refused inRange late
    · exact stopsAt_of_outOfRange before refused (Nat.le_of_not_lt inRange)
  · exact stopsAt_of_settled before refused

end Ends

/-- Either all attempts are followed by others, or the first one that is not ends the
acquisition. -/
theorem goesOn_or_stopsAt (lock : Lock σ) (key : String) (ttl timeout interval : Duration)
    (now : Instant) (state : σ) :
    (∀ number, lock.GoesOn key ttl timeout interval now state number) ∨
      ∃ last, (∀ number < last, lock.GoesOn key ttl timeout interval now state number) ∧
        lock.StopsAt key ttl timeout interval now state last := by
  classical
  by_cases stops : ∃ last, ¬ lock.GoesOn key ttl timeout interval now state last
  · have before : ∀ number < Nat.find stops,
        lock.GoesOn key ttl timeout interval now state number := fun number below =>
      not_not.mp (Nat.find_min stops below)
    exact .inr ⟨Nat.find stops, before, stopsAt_of_not_goesOn before (Nat.find_spec stops)⟩
  · exact .inl (not_exists_not.mp stops)

theorem runsForever_iff_unbounded :
    lock.RunsForever (.sleep interval) key ttl timeout now state ↔
      ∀ limit, lock.acquireWithin (.sleep interval) limit key ttl timeout now state = none := by
  rw [runsForever_iff_goesOn]
  constructor
  · intro goesOn limit
    exact acquireWithin_of_goesOn fun number _ => goesOn number
  · intro unended
    rcases lock.goesOn_or_stopsAt key ttl timeout interval now state with goesOn | stops
    · exact goesOn
    · obtain ⟨last, -, outcome, -, ended⟩ := stops
      have reached := ended (last + 1) (Nat.lt_succ_self last)
      rw [unended] at reached
      cases reached

/-- Pauses of some length are no more than fit before the timeout, nor than fit in the range
of the clock. -/
structure Bounded (timeout interval : Duration) (now : Instant) (last : Nat) : Prop where
  timeout : last < rounds timeout interval
  range : (now.afterPauses interval last).nanos < Instant.bound

theorem bounded_of_goesOn (positive : 0 < interval.nanos) (started : now.nanos < Instant.bound)
    (before : ∀ number < last, lock.GoesOn key ttl timeout interval now state number) :
    Bounded timeout interval now last := by
  cases last with
  | zero => exact ⟨rounds_pos, by simpa using started⟩
  | succ previous =>
    obtain ⟨-, inRange, fits⟩ := goesOn_iff.mp (before previous (Nat.lt_succ_self previous))
    have counted := (lt_ceilDiv_iff positive).mpr fits
    exact ⟨Nat.lt_of_lt_of_le counted (le_max_right ..), inRange⟩

/-- Which acquisitions end, and how. Any limit that the last attempt fits into gives the same
outcome, and any other one gives none. -/
structure EndsUnlessStalled (lock : Lock σ) (config : LockConfig) (key : String)
    (ttl timeout : Duration) (now : Instant) (state : σ) : Prop where
  forever : lock.RunsForever (.sleep config.retryInterval) key ttl timeout now state ↔
    lock.Stalls key ttl timeout config.retryInterval now state
  unbounded : lock.RunsForever (.sleep config.retryInterval) key ttl timeout now state ↔
    ∀ limit, lock.acquireWithin (.sleep config.retryInterval) limit key ttl timeout now state = none
  ends : ¬ lock.Stalls key ttl timeout config.retryInterval now state →
    ∃ last outcome, lock.EndsAt key ttl timeout config.retryInterval now state last outcome ∧
      ∀ limit, lock.acquireWithin (.sleep config.retryInterval) limit key ttl timeout now state =
        if last < limit then some outcome else none
  moving : 0 < config.retryInterval.nanos →
    ∃ last, Bounded timeout config.retryInterval now last ∧
      ∃ outcome ∈ lock.acquire config key ttl timeout now state,
        lock.EndsAt key ttl timeout config.retryInterval now state last outcome

theorem endsUnlessStalled (lock : Lock σ) (config : LockConfig) (key : String)
    (ttl timeout : Duration) (now : Instant) (state : σ) (started : now.nanos < Instant.bound) :
    EndsUnlessStalled lock config key ttl timeout now state := by
  obtain ⟨interval⟩ := config
  constructor
  case forever => exact runsForever_iff_goesOn.trans (goesOn_always_iff started)
  case unbounded => exact runsForever_iff_unbounded
  case ends =>
    intro moves
    rcases lock.goesOn_or_stopsAt key ttl timeout interval now state with goesOn | stops
    · exact absurd ((goesOn_always_iff started).mp goesOn) moves
    · obtain ⟨last, before, outcome, endsAt, ended⟩ := stops
      refine ⟨last, outcome, endsAt, ?_⟩
      intro limit
      split
      next enough => exact ended limit enough
      next short =>
        exact acquireWithin_of_goesOn fun number below => before number (by omega)
  case moving =>
    intro positive
    rcases lock.goesOn_or_stopsAt key ttl timeout interval now state with goesOn | stops
    · have still := ((goesOn_always_iff started).mp goesOn).still
      exact absurd still (Nat.ne_of_gt positive)
    · obtain ⟨last, before, outcome, endsAt, ended⟩ := stops
      have bounded := bounded_of_goesOn positive started before
      exact ⟨last, bounded, outcome, ended attemptLimit (lt_attemptLimit positive bounded.range),
        endsAt⟩

end Lock

theorem MemoryLock.refused_of_lasting {table : MemoryLock} {key : String} {ttl interval : Duration}
    {now : Instant} (nonempty : key ≠ "") (lasting : table.records[key]? = some none)
    (number : Nat) :
    asLock.answerOf key ttl (now.afterPauses interval) table number = .ok false := by
  have held : ∀ earlier < number + 1,
      (table.leaseAt key (now.afterPauses interval earlier)).isSome = true := by
    intro earlier _
    simp [leaseAt, lasting, Expiration.isAhead]
  exact refused_of_held nonempty held number (Nat.lt_succ_self number)

/-- Retries without a pause, as options may ask for them. -/
def LockConfig.restless : LockConfig :=
  .ofParams (.ofList [("options.retry_timeout", "0")])

/-- A key that is taken for good is waited for without end if there are no pauses. With pauses
and without a deadline the clock runs out. -/
theorem Lock.endsUnlessStalled_lasting :
    Instant.start.nanos < Instant.bound ∧
      EndsUnlessStalled MemoryLock.asLock .restless "b" (.ofSeconds 5) (.ofSeconds 1) .start
        MemoryLock.contended ∧
      MemoryLock.asLock.RunsForever (.sleep LockConfig.restless.retryInterval) "b" (.ofSeconds 5)
        (.ofSeconds 1) .start MemoryLock.contended ∧
      ∃ outcome ∈ MemoryLock.asLock.acquire .default "b" (.ofSeconds 5) .max .start
        MemoryLock.contended, outcome.ending = .clockOverflow := by
  have started : Instant.start.nanos < Instant.bound := by decide
  have lasting : MemoryLock.contended.records["b"]? = some none := by decide +kernel
  have restless := endsUnlessStalled MemoryLock.asLock .restless "b" (.ofSeconds 5) (.ofSeconds 1)
    .start MemoryLock.contended started
  have patient := endsUnlessStalled MemoryLock.asLock .default "b" (.ofSeconds 5) .max .start
    MemoryLock.contended started
  refine ⟨started, restless, restless.forever.mpr ⟨by decide +kernel, .inl (by decide), ?_⟩, ?_⟩
  · exact MemoryLock.refused_of_lasting (by decide) lasting
  · obtain ⟨last, -, outcome, ended, endsAt⟩ := patient.moving (by decide)
    refine ⟨outcome, ended, ?_⟩
    cases endsAt with
    | answered settled _ =>
      exact absurd (MemoryLock.refused_of_lasting (by decide) lasting last) settled
    | overflown _ _ ended => exact ended.ending
    | timedOut _ late _ =>
      have never : Expiration.after .start .max = none := by decide +kernel
      rw [never] at late
      cases late

end Provision

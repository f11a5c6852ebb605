import Provision.Proofs.Lock.History
import Provision.Proofs.Lock.Polling

/-! Waiting for a key of a lock table in memory, while nobody else acts on the table.
Attempts that are refused only drop records of keys that are free, so what the table
shows at the start decides the acquisition: the key is granted at the first attempt that
is not made before the end of the time it is taken for, if that attempt is made at all. -/

set_option autoImplicit false

namespace Provision.MemoryLock

/-! ## The records that attempts leave -/

section Records

variable {table : MemoryLock} {key other : String} {ttl interval : Duration} {now : Instant}
  {count : Nat}

theorem getElem?_tryAcquire_of_ne (nonempty : key ≠ "") (different : other ≠ key) :
    (tryAcquire key ttl now table).2.records[other]? = table.leaseAt other now := by
  rw [tryAcquire_table nonempty]
  split
  · simp [Std.ExtTreeMap.getElem?_insert, different.symm, getElem?_held]
  · exact getElem?_held

theorem getElem?_tryAcquire_of_free (nonempty : key ≠ "") (free : table.leaseAt key now = none) :
    (tryAcquire key ttl now table).2.records[key]? = some (.after now ttl) := by
  simp [tryAcquire_table nonempty, free]

theorem leaseAt_eq_getElem? (held : (table.leaseAt key now).isSome = true) :
    table.leaseAt key now = table.records[key]? := by
  obtain ⟨ending, found⟩ := Option.isSome_iff_exists.mp held
  rw [found, (Option.filter_eq_some_iff.mp found).1]

theorem stateAfter_succ_of_held (nonempty : key ≠ "")
    (held : ((asLock.stateAfter key ttl (now.afterPauses interval) table count).leaseAt key
      (now.afterPauses interval count)).isSome = true) :
    asLock.stateAfter key ttl (now.afterPauses interval) table (count + 1) =
      (asLock.stateAfter key ttl (now.afterPauses interval) table count).held
        (now.afterPauses interval count) := by
  obtain ⟨ending, found⟩ := Option.isSome_iff_exists.mp held
  exact (tryAcquire_table nonempty).trans (by simp [found])

/-- As long as the key is held, attempts at it are not seen from any later instant. -/
theorem leaseAt_stateAfter (nonempty : key ≠ "")
    (held : ∀ number < count, (table.leaseAt key (now.afterPauses interval number)).isSome = true)
    {later : Instant} (order : ∀ number < count, now.afterPauses interval number ≤ later) :
    (asLock.stateAfter key ttl (now.afterPauses interval) table count).leaseAt other later =
      table.leaseAt other later := by
  -- For any instant and any key: the next attempt sees its own key at its own instant.
  induction count generalizing other later with
  | zero => rfl
  | succ count ih =>
    have heldBefore := fun number (below : number < count) => held number (by omega)
    have seen : (asLock.stateAfter key ttl (now.afterPauses interval) table count).leaseAt key
        (now.afterPauses interval count) = table.leaseAt key (now.afterPauses interval count) :=
      ih heldBefore fun number below => Instant.afterPauses_le (Nat.le_of_lt below)
    rw [stateAfter_succ_of_held nonempty (seen ▸ held count (by omega)),
      leaseAt_held (order count (by omega))]
    exact ih heldBefore fun number below => order number (by omega)

/-- What an attempt sees after refused ones is what the table showed at the start. -/
theorem leaseAt_polled (nonempty : key ≠ "")
    (held : ∀ number < count,
      (table.leaseAt key (now.afterPauses interval number)).isSome = true) :
    (asLock.stateAfter key ttl (now.afterPauses interval) table count).leaseAt other
      (now.afterPauses interval count) = table.leaseAt other (now.afterPauses interval count) :=
  leaseAt_stateAfter nonempty held fun _ below => Instant.afterPauses_le (Nat.le_of_lt below)

theorem answerOf_eq (nonempty : key ≠ "")
    (held : ∀ number < count,
      (table.leaseAt key (now.afterPauses interval number)).isSome = true) :
    asLock.answerOf key ttl (now.afterPauses interval) table count =
      .ok (table.leaseAt key (now.afterPauses interval count)).isNone := by
  rw [← leaseAt_polled nonempty held]
  exact tryAcquire_answer nonempty

theorem refused_of_held (nonempty : key ≠ "")
    (held : ∀ number < count,
      (table.leaseAt key (now.afterPauses interval number)).isSome = true) :
    ∀ number < count,
      asLock.answerOf key ttl (now.afterPauses interval) table number = .ok false := by
  intro number below
  have found := held number below
  rw [answerOf_eq nonempty fun earlier before => held earlier (Nat.lt_trans before below)]
  simpa using found

end Records

/-! ## The ends of an acquisition -/

/-- The key is granted at a numbered attempt, and is taken from then on. The records of
other keys that are held at that attempt are left. -/
structure GrantedAt (table : MemoryLock) (key : String) (ttl interval : Duration)
    (now : Instant) (number : Nat) (outcome : AcquireOutcome MemoryLock) : Prop where
  ending : outcome.ending = .acquired
  instant : outcome.now = now.afterPauses interval number
  attempts : outcome.attempts = (List.range (number + 1)).map (now.afterPauses interval)
  taken : outcome.state.records[key]? = some (.after outcome.now ttl)
  others (other : String) : other ≠ key →
    outcome.state.records[other]? = table.leaseAt other (now.afterPauses interval number)

/-- A number of attempts are refused, and the key is still taken as before. The records of
other keys that are held at the last attempt are left. -/
structure RefusedUntil (table : MemoryLock) (key : String) (interval : Duration)
    (now : Instant) (count : Nat) (outcome : AcquireOutcome MemoryLock) : Prop where
  ending : outcome.ending = .failed (.conflict key)
  instant : outcome.now = now.afterPauses interval count
  attempts : outcome.attempts = (List.range count).map (now.afterPauses interval)
  kept : outcome.state.records[key]? = table.records[key]?
  others (other : String) : other ≠ key →
    outcome.state.records[other]? = table.leaseAt other (now.afterPauses interval (count - 1))

/-- What comes of waiting for a key, in terms of what its record says at the start. -/
structure WaitsForKey (config : LockConfig) (table : MemoryLock) (key : String)
    (ttl timeout : Duration) (now : Instant)
    (result : Option (AcquireOutcome MemoryLock)) : Prop where
  free : table.isLocked key now = false →
    ∃ outcome ∈ result, GrantedAt table key ttl config.retryInterval now 0 outcome ∧
      outcome.now = now
  freed (ending : Instant) : table.records[key]? = some (some ending) → now < ending →
    (ending.nanos - now.nanos) ⌈/⌉ config.retryInterval.nanos <
      rounds timeout config.retryInterval →
    ∃ outcome ∈ result, GrantedAt table key ttl config.retryInterval now
        ((ending.nanos - now.nanos) ⌈/⌉ config.retryInterval.nanos) outcome ∧
      ending ≤ outcome.now ∧ outcome.now.nanos < ending.nanos + config.retryInterval.nanos
  late (ending : Instant) : table.records[key]? = some (some ending) → now < ending →
    rounds timeout config.retryInterval ≤
      (ending.nanos - now.nanos) ⌈/⌉ config.retryInterval.nanos →
    ∃ outcome ∈ result, RefusedUntil table key config.retryInterval now
      (rounds timeout config.retryInterval) outcome
  lasting : table.records[key]? = some none →
    ∃ outcome ∈ result, RefusedUntil table key config.retryInterval now
      (rounds timeout config.retryInterval) outcome

section Ends

variable {table : MemoryLock} {key : String} {ttl timeout interval : Duration} {now : Instant}
  {count : Nat} (nonempty : key ≠ "") (positive : 0 < interval.nanos)
  (inRange : now.nanos + timeout.nanos + interval.nanos < Instant.bound)

include nonempty positive inRange

theorem grantedAt_of_free (fits : count < rounds timeout interval)
    (held : ∀ number < count, (table.leaseAt key (now.afterPauses interval number)).isSome = true)
    (free : table.leaseAt key (now.afterPauses interval count) = none) :
    ∃ outcome ∈ asLock.acquire ⟨interval⟩ key ttl timeout now table,
      GrantedAt table key ttl interval now count outcome := by
  have granted : asLock.answerOf key ttl (now.afterPauses interval) table count = .ok true := by
    simp [answerOf_eq nonempty held, free]
  have settled : asLock.answerOf key ttl (now.afterPauses interval) table count ≠ .ok false := by
    simp [granted]
  have ended := Lock.acquire_settled positive inRange fits (refused_of_held nonempty held) settled
  rw [granted] at ended
  refine ⟨_, ended, rfl, rfl, rfl, ?taken, ?others⟩
  case taken =>
    exact getElem?_tryAcquire_of_free nonempty ((leaseAt_polled nonempty held).trans free)
  case others =>
    intro other different
    exact (getElem?_tryAcquire_of_ne nonempty different).trans (leaseAt_polled nonempty held)

theorem refusedUntil_of_held
    (held : ∀ number < rounds timeout interval,
      (table.leaseAt key (now.afterPauses interval number)).isSome = true) :
    ∃ outcome ∈ asLock.acquire ⟨interval⟩ key ttl timeout now table,
      RefusedUntil table key interval now (rounds timeout interval) outcome := by
  have refused : ∀ number < rounds timeout interval,
      asLock.answerOf key ttl (now.afterPauses interval) table number = .ok false :=
    refused_of_held nonempty held
  have ended := Lock.acquire_timedOut positive inRange refused
  obtain ⟨last, same⟩ : ∃ last, rounds timeout interval = last + 1 :=
    Nat.exists_eq_add_one.mpr rounds_pos
  rw [same] at ended held ⊢
  have heldBefore := fun number (below : number < last) => held number (by omega)
  have heldLast := held last (Nat.lt_succ_self last)
  refine ⟨_, ended, rfl, rfl, rfl, ?kept, ?others⟩
  case kept =>
    have seen : (asLock.stateAfter key ttl (now.afterPauses interval) table last).leaseAt key
        (now.afterPauses interval last) = table.leaseAt key (now.afterPauses interval last) :=
      leaseAt_polled nonempty heldBefore
    rw [stateAfter_succ_of_held nonempty (seen ▸ heldLast), getElem?_held, seen,
      leaseAt_eq_getElem? heldLast]
  case others =>
    -- Only attempts drop records: the pause after the last one leaves them all.
    intro other different
    exact (getElem?_tryAcquire_of_ne nonempty different).trans (leaseAt_polled nonempty heldBefore)

end Ends

section Expiring

variable {table : MemoryLock} {key : String} {interval : Duration} {now ending : Instant}
  (positive : 0 < interval.nanos)

include positive

/-- A key is held at the attempts that are made before the end of its time. -/
theorem leaseAt_afterPauses (found : table.records[key]? = some (some ending)) (number : Nat) :
    (table.leaseAt key (now.afterPauses interval number)).isSome = true ↔
      number < (ending.nanos - now.nanos) ⌈/⌉ interval.nanos := by
  rw [lt_ceilDiv_iff positive]
  simp only [leaseAt, found, Option.isSome_filter, Option.any_some, Expiration.isAhead,
    decide_eq_true_eq, Instant.lt_def, Instant.afterPauses]
  omega

/-- The first attempt that is not made before an end is made less than a pause after it. -/
theorem afterPauses_ceilDiv (ahead : now < ending) :
    ending ≤ now.afterPauses interval ((ending.nanos - now.nanos) ⌈/⌉ interval.nanos) ∧
      (now.afterPauses interval ((ending.nanos - now.nanos) ⌈/⌉ interval.nanos)).nanos <
        ending.nanos + interval.nanos := by
  have remains : 0 < ending.nanos - now.nanos := Nat.sub_pos_of_lt ahead
  have delayed : 0 < (ending.nanos - now.nanos) ⌈/⌉ interval.nanos := by
    simpa [lt_ceilDiv_iff positive] using remains
  obtain ⟨before, same⟩ := Nat.exists_eq_add_one.mpr delayed
  have previous : before * interval.nanos < ending.nanos - now.nanos :=
    (lt_ceilDiv_iff positive).mp (same ▸ Nat.lt_succ_self before)
  have next : ¬ (before + 1) * interval.nanos < ending.nanos - now.nanos :=
    (lt_ceilDiv_iff positive).not.mp (same ▸ Nat.lt_irrefl _)
  rw [same]
  simp only [Instant.afterPauses, Instant.le_def, Nat.succ_mul] at next ⊢
  omega

end Expiring

/-- A free key is granted at once. A key that is taken for a time is granted at the first
attempt that is not made before its end, if there is such an attempt before the timeout.
Otherwise, and if it is taken for good, all attempts are refused and it stays taken. -/
theorem waitsForKey (config : LockConfig) (table : MemoryLock) (key : String)
    (ttl timeout : Duration) (now : Instant) (nonempty : key ≠ "")
    (positive : 0 < config.retryInterval.nanos)
    (inRange : now.nanos + timeout.nanos + config.retryInterval.nanos < Instant.bound) :
    WaitsForKey config table key ttl timeout now
      (asLock.acquire config key ttl timeout now table) := by
  obtain ⟨interval⟩ := config
  constructor
  case free =>
    intro free
    have unseen : table.leaseAt key (now.afterPauses interval 0) = none := by
      simpa [isLocked_eq] using free
    obtain ⟨outcome, ended, granted⟩ := grantedAt_of_free nonempty positive inRange rounds_pos
      (fun _ below => absurd below (Nat.not_lt_zero _)) unseen
    exact ⟨outcome, ended, granted, granted.instant.trans Instant.afterPauses_zero⟩
  case freed =>
    -- The attempts before the rounded-up one are made while the key is held.
    intro ending found ahead fits
    have held : ∀ number, (table.leaseAt key (now.afterPauses interval number)).isSome = true ↔
        number < (ending.nanos - now.nanos) ⌈/⌉ interval.nanos :=
      leaseAt_afterPauses positive found
    have free : table.leaseAt key (now.afterPauses interval
        ((ending.nanos - now.nanos) ⌈/⌉ interval.nanos)) = none := by
      simpa using (held _).not.mpr (Nat.lt_irrefl _)
    obtain ⟨outcome, ended, granted⟩ := grantedAt_of_free nonempty positive inRange fits
      (fun number below => (held number).mpr below) free
    refine ⟨outcome, ended, granted, ?_⟩
    rw [granted.instant]
    exact afterPauses_ceilDiv positive ahead
  case late =>
    intro ending found ahead late
    exact refusedUntil_of_held nonempty positive inRange fun number below =>
      (leaseAt_afterPauses positive found number).mpr (Nat.lt_of_lt_of_le below late)
  case lasting =>
    intro found
    refine refusedUntil_of_held nonempty positive inRange fun number below => ?_
    simp [leaseAt, found, Expiration.isAhead]

/-- One key is taken for less than half a second, and another one for good. -/
def contended : MemoryLock :=
  empty.after
    [⟨.start, .tryAcquire "a" (.ofMillis 450)⟩, ⟨.start, .tryAcquire "b" .max⟩]

theorem waitsForKey_contended :
    "a" ≠ "" ∧ 0 < LockConfig.default.retryInterval.nanos ∧
      Instant.start.nanos + (Duration.ofSeconds 2).nanos +
        LockConfig.default.retryInterval.nanos < Instant.bound ∧
      contended.records["a"]? = some (some ⟨450000000⟩) ∧
      contended.records["b"]? = some none ∧
      450000000 ⌈/⌉ LockConfig.default.retryInterval.nanos = 5 ∧
      rounds (.ofSeconds 2) LockConfig.default.retryInterval = 20 ∧
      WaitsForKey .default contended "a" (.ofSeconds 5) (.ofSeconds 2) .start
        (asLock.acquire .default "a" (.ofSeconds 5) (.ofSeconds 2) .start contended) := by
  have nonempty : "a" ≠ "" := by decide
  have positive : 0 < LockConfig.default.retryInterval.nanos := by decide
  have inRange : Instant.start.nanos + (Duration.ofSeconds 2).nanos +
      LockConfig.default.retryInterval.nanos < Instant.bound := by decide
  exact ⟨nonempty, positive, inRange, by decide +kernel, by decide +kernel, by decide, by decide,
    waitsForKey .default contended "a" _ _ .start nonempty positive inRange⟩

end Provision.MemoryLock

import Provision.Proofs.Lock.History

/-! Mutual exclusion of a lock table in memory. The table and the history of what was
asked and answered say the same about every key at every instant that is still to
come. This is kept by each event, whoever it comes from, as long as the clock does not
go back; every answer follows from it. -/

set_option autoImplicit false

namespace Provision

open LockHistory

/-- From an instant on, the table shows what the history says about every key. -/
def MemoryLock.Tracks (now : Instant) (table : MemoryLock) (past : LockHistory) : Prop :=
  ∀ (key : String) (later : Instant), now ≤ later →
    table.leaseAt key later =
      ((latest? key past).bind LockChange.lease).filter (·.isAhead later)

namespace MemoryLock

variable {table : MemoryLock} {past : LockHistory} {start now : Instant} {key : String}

theorem tracks_empty (now : Instant) : Tracks now empty [] := by
  intro key later _
  simp [leaseAt, empty, latest?]

theorem Tracks.serve {event : LockEvent} (tracks : Tracks event.now table past) :
    Tracks event.now (table.serve event).2 (past ++ [(event, (table.serve event).1)]) := by
  intro key later order
  rw [leaseAt_serve event order, latest?_append]
  cases changeOf? key (event, (table.serve event).1) with
  | none => simpa using tracks key later order
  | some change => simp

theorem Tracks.run {events : List LockEvent} (tracks : Tracks start table past)
    (order : Ascending start (events.map LockEvent.now)) :
    Tracks ((events.map LockEvent.now).getLastD start) (table.after events)
      (past ++ table.history events) := by
  induction events generalizing start table past with
  | nil => simpa [after, history] using tracks
  | cons event rest ih =>
    obtain ⟨notBefore, later⟩ := ascending_cons.mp order
    have waited : Tracks event.now table past := fun key instant reached =>
      tracks key instant (Instant.le_trans notBefore reached)
    have tracked := ih waited.serve later
    rw [List.append_assoc] at tracked
    rw [after_cons, history_cons]
    cases rest <;> exact tracked

theorem Tracks.heldAt_iff (tracks : Tracks now table past) (key : String) :
    (table.leaseAt key now).isSome = true ↔ HeldAt key now past := by
  rw [tracks key now (Instant.le_refl now), LockHistory.heldAt_iff]

/-! ## Operations on other keys -/

theorem changeOf?_of_ne {event : LockEvent} (answer : LockAnswer)
    (other : event.request.key ≠ key) :
    changeOf? key (event, answer) = none := by
  unfold changeOf?
  split
  · simp_all [LockRequest.key]
  · simp_all [LockRequest.key]
  · rfl

theorem serve_answer {table' : MemoryLock} (event : LockEvent)
    (same : table.leaseAt event.request.key event.now =
      table'.leaseAt event.request.key event.now) :
    (table.serve event).1 = (table'.serve event).1 := by
  obtain ⟨now, request⟩ := event
  cases request with
  | tryAcquire key ttl =>
    by_cases blank : key = ""
    · simp [serve, tryAcquire, blank]
    · simp only [LockRequest.key] at same
      simp only [serve, Prod.map, tryAcquire_answer blank, same]
  | release key =>
    simp only [serve, release]
    split <;> rfl
  | isLocked key =>
    simp only [LockRequest.key] at same
    simp only [serve, isLocked_eq, same]

/-- What is seen of a key does not change if all events on other keys are left out. -/
theorem leaseAt_after_own {table' : MemoryLock} {events : List LockEvent}
    (agree : ∀ later : Instant, start ≤ later → table.leaseAt key later = table'.leaseAt key later)
    (order : Ascending start (events.map LockEvent.now))
    (reached : (events.map LockEvent.now).getLastD start ≤ now) :
    (table.after events).leaseAt key now =
      (table'.after (events.filter fun event => event.request.key = key)).leaseAt key now := by
  induction events generalizing start table table' with
  | nil => exact agree now reached
  | cons event rest ih =>
    obtain ⟨notBefore, later⟩ := ascending_cons.mp order
    have reachedRest : (rest.map LockEvent.now).getLastD event.now ≤ now := by
      cases rest <;> exact reached
    by_cases own : event.request.key = key
    · have sameAnswer : (table.serve event).1 = (table'.serve event).1 :=
        serve_answer event (by rw [own]; exact agree event.now notBefore)
      rw [List.filter_cons_of_pos (by simpa using own), after_cons, after_cons]
      refine ih ?_ later reachedRest
      intro instant order
      rw [leaseAt_serve event order, leaseAt_serve event order, sameAnswer,
        agree instant (Instant.le_trans notBefore order)]
    · rw [List.filter_cons_of_neg (by simpa using own), after_cons]
      refine ih ?_ later reachedRest
      intro instant order
      rw [leaseAt_serve event order, changeOf?_of_ne _ own]
      exact agree instant (Instant.le_trans notBefore order)

/-- After an attempt exactly the keys that are held have records, and the key that was
just taken, even if it was taken for no time. -/
theorem mem_records_tryAcquire (nonempty : key ≠ "") (ttl : Duration) (other : String) :
    other ∈ (tryAcquire key ttl now table).2.records ↔
      (table.leaseAt other now).isSome = true ∨
        other = key ∧ (tryAcquire key ttl now table).1 = .ok true := by
  rw [tryAcquire_answer nonempty, tryAcquire_table nonempty]
  have held : other ∈ (table.held now).records ↔ (table.leaseAt other now).isSome = true := by
    rw [← contains_held, Std.ExtTreeMap.contains_iff_mem]
  cases table.leaseAt key now with
  | none =>
    simp only [Option.isNone_none, if_true, Std.ExtTreeMap.mem_insert, held, and_true]
    rw [Std.LawfulEqCmp.compare_eq_iff_eq, or_comm, @eq_comm _ key other]
  | some ending => simpa using held

/-- What a table answers about a key after some events, in terms of what the history of
these events says about the key. -/
structure AnswersAsHeld (events : List LockEvent) (key : String) (now : Instant) : Prop where
  granted (ttl : Duration) : (tryAcquire key ttl now (empty.after events)).1 = .ok true ↔
    ¬ HeldAt key now (empty.history events)
  refused (ttl : Duration) : (tryAcquire key ttl now (empty.after events)).1 = .ok false ↔
    HeldAt key now (empty.history events)
  locked : (empty.after events).isLocked key now = true ↔ HeldAt key now (empty.history events)
  attemptAlone (ttl : Duration) : (tryAcquire key ttl now (empty.after events)).1 =
    (tryAcquire key ttl now (empty.after (events.filter (·.request.key = key)))).1
  lockedAlone : (empty.after events).isLocked key now =
    (empty.after (events.filter (·.request.key = key))).isLocked key now
  records (ttl : Duration) (other : String) :
    other ∈ (tryAcquire key ttl now (empty.after events)).2.records ↔
      HeldAt other now (empty.history events) ∨
        other = key ∧ (tryAcquire key ttl now (empty.after events)).1 = .ok true

theorem tracks_after {events : List LockEvent}
    (order : Ascending start (events.map LockEvent.now ++ [now])) :
    Tracks now (empty.after events) (empty.history events) := by
  obtain ⟨eventsOrder, last⟩ := ascending_append.mp order
  intro key later reached
  exact (tracks_empty start).run eventsOrder key later
    (Instant.le_trans (ascending_cons.mp last).1 reached)

/-- After any attempts, releases and questions, by any callers and on any keys, a key is
granted exactly if it is not held, and other keys make no difference. The table that an
attempt leaves has records of the keys that were held, and of its own if it was granted. -/
theorem answersAsHeld (start : Instant) (events : List LockEvent) (now : Instant)
    (order : Ascending start (events.map LockEvent.now ++ [now])) (key : String)
    (nonempty : key ≠ "") : AnswersAsHeld events key now := by
  have tracks := tracks_after order
  obtain ⟨eventsOrder, last⟩ := ascending_append.mp order
  have own : (empty.after events).leaseAt key now =
      (empty.after (events.filter (·.request.key = key))).leaseAt key now :=
    leaseAt_after_own (fun _ _ => rfl) eventsOrder (ascending_cons.mp last).1
  constructor
  case granted =>
    intro ttl
    rw [tryAcquire_answer nonempty, ← tracks.heldAt_iff key]
    cases (empty.after events).leaseAt key now <;> simp
  case refused =>
    intro ttl
    rw [tryAcquire_answer nonempty, ← tracks.heldAt_iff key]
    cases (empty.after events).leaseAt key now <;> simp
  case locked => rw [isLocked_eq, tracks.heldAt_iff key]
  case attemptAlone =>
    intro ttl
    rw [tryAcquire_answer nonempty, tryAcquire_answer nonempty, own]
  case lockedAlone => rw [isLocked_eq, isLocked_eq, own]
  case records =>
    intro ttl other
    rw [mem_records_tryAcquire nonempty, tracks.heldAt_iff other]

end MemoryLock

section Contention

/-- Two callers contend for one key, and another key is taken for no time and for good. -/
def contention : List LockEvent :=
  [⟨.start, .tryAcquire "a" (.ofSeconds 3)⟩,
    ⟨.start, .tryAcquire "b" ⟨0⟩⟩,
    ⟨⟨1000000000⟩, .tryAcquire "a" (.ofSeconds 3)⟩,
    ⟨⟨2000000000⟩, .tryAcquire "b" .max⟩,
    ⟨⟨2000000000⟩, .isLocked "a"⟩]

theorem MemoryLock.answersAsHeld_contention :
    Ascending .start (contention.map LockEvent.now ++ [⟨3000000000⟩]) ∧ "a" ≠ "" ∧
      AnswersAsHeld contention "a" ⟨3000000000⟩ ∧
      ¬ HeldAt "a" ⟨3000000000⟩ (empty.history contention) ∧
      HeldAt "b" ⟨3000000000⟩ (empty.history contention) := by
  have order : Ascending .start (contention.map LockEvent.now ++ [⟨3000000000⟩]) := by decide
  have nonempty : "a" ≠ "" := by decide
  exact ⟨order, nonempty, answersAsHeld .start contention _ order "a" nonempty,
    by decide +kernel, by decide +kernel⟩

end Contention

end Provision

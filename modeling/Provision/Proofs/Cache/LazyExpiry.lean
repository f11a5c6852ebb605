import Provision.Proofs.Cache.Eager

/-! A cache that expires lazily answers like the one that expires eagerly. The two are
related through what is alive: leftover entries are not seen by a look-up, and they
bring a sweep forward but never an eviction, since a sweep drops them before it counts. -/

set_option autoImplicit false

namespace Provision

open CacheEntries

/-- What is alive in a cache is what the reference holds that is alive. -/
structure MemoryCache.Matches (now : Instant) (cache : MemoryCache) (eager : EagerCache) :
    Prop where
  config : cache.config = eager.config
  valid : cache.Valid
  same : cache.entries.alive now = eager.entries.alive now

variable {cache : MemoryCache} {eager : EagerCache} {now : Instant} {key : String}

theorem MemoryCache.Matches.wait {later : Instant} (matching : cache.Matches now eager)
    (order : now ≤ later) : cache.Matches later eager := by
  refine ⟨matching.config, matching.valid, ?_⟩
  rw [← alive_alive order, matching.same, alive_alive order]

theorem EagerCache.entries_store (tie : TieBreak) (value : ByteArray) (ttl : Option Duration) :
    (eager.store tie key value ttl now).entries =
      if isOver eager.config.maxSize
          (eager.entries.insert key (.new key value now (lifetime eager.config ttl))) then
        evictOne tie (eager.entries.insert key (.new key value now (lifetime eager.config ttl)))
      else eager.entries.insert key (.new key value now (lifetime eager.config ttl)) := by
  let written : EagerCache :=
    { eager with held := eager.held.insert key ⟨value, now, lifetime eager.config ttl⟩ }
  have view : written.entries =
      eager.entries.insert key (.new key value now (lifetime eager.config ttl)) := by
    apply Std.ExtTreeMap.ext_getElem?
    intro k
    simp only [written, getElem?_entries, Std.ExtTreeMap.getElem?_insert]
    split
    · next same =>
      cases Std.LawfulEqCmp.eq_of_compare same
      rfl
    · rfl
  have counted : written.entries.size = written.held.size := size_entries
  rw [← view]
  unfold store
  by_cases exceeds : 0 < eager.config.maxSize ∧ eager.config.maxSize < written.held.size
  · have evicts : isOver eager.config.maxSize written.entries = true := by
      simp [isOver, counted, exceeds]
    rw [if_pos evicts, ← entries_evict tie]
    exact congrArg entries (by simp only [written] at exceeds ⊢; rw [if_pos exceeds])
  · have fits : ¬ isOver eager.config.maxSize written.entries = true := by
      simpa [isOver, counted] using exceeds
    rw [if_neg fits]
    exact congrArg entries (by simp only [written] at exceeds ⊢; rw [if_neg exceeds])

/-- One event: the answers are the same, and what is alive stays the same. -/
theorem MemoryCache.Matches.serve {event : CacheEvent} (matching : cache.Matches event.now eager) :
    (cache.serve event).1 = (eager.serve event).1 ∧
      (cache.serve event).2.Matches event.now (eager.serve event).2 := by
  have seen : cache.entries.alive event.now = (eager.tick event.now).entries := by
    rw [matching.same, EagerCache.entries_tick]
  have value (key : String) : (cache.entries.alive event.now)[key]? =
      ((eager.tick event.now).held[key]?).map (TimedValue.entry key) := by
    rw [seen, EagerCache.getElem?_entries]
  have valid := matching.valid.serve event
  by_cases blank : event.request.key? = some ""
  · rw [serve_blank cache event blank, EagerCache.serve, EagerCache.handle_blank _ event blank]
    exact ⟨rfl, matching.config, matching.valid,
      by rw [← seen, alive_alive (Instant.le_refl event.now)]⟩
  obtain ⟨now, tie, request⟩ := event
  -- What is left has to show what the reference holds, which is alive as it is.
  have related {fewer : CacheEntries} {next : EagerCache} (sameConfig : next.config = eager.config)
      (still : MemoryCache.Valid { cache with entries := fewer })
      (shown : fewer.alive now = next.entries) :
      Matches now { cache with entries := fewer } next :=
    ⟨matching.config.trans sameConfig.symm, still,
      by rw [← shown, alive_alive (Instant.le_refl now)]⟩
  cases request with
  | store key given ttl =>
    have nonempty : key ≠ "" := by simpa [CacheRequest.key?] using blank
    simp only [MemoryCache.serve, storeRaw_eq matching.valid.agree _ _ _ _ _ nonempty] at valid ⊢
    simp only [EagerCache.serve, EagerCache.handle, nonempty, if_false]
    refine ⟨rfl, related rfl valid ?_⟩
    rw [alive_stored matching.valid.agree (CacheEntry.isExpired_new _ _ _ _), crowd, seen,
      EagerCache.entries_store, matching.config, EagerCache.lifetime_eq]
    rfl
  | retrieve key =>
    have nonempty : key ≠ "" := by simpa [CacheRequest.key?] using blank
    simp only [MemoryCache.serve, retrieveRaw_eq nonempty, value] at valid ⊢
    simp only [EagerCache.serve, EagerCache.handle, nonempty, if_false]
    refine ⟨?_, related rfl valid (alive_looked.trans seen)⟩
    rw [Option.map_map]
    rfl
  | contains key =>
    have nonempty : key ≠ "" := by simpa [CacheRequest.key?] using blank
    simp only [MemoryCache.serve, contains_eq nonempty, value] at valid ⊢
    simp only [EagerCache.serve, EagerCache.handle, nonempty, if_false]
    refine ⟨?_, related rfl valid (alive_looked.trans seen)⟩
    rw [Option.isSome_map, Std.ExtTreeMap.contains_eq_isSome_getElem?]
    rfl
  | remove key =>
    have nonempty : key ≠ "" := by simpa [CacheRequest.key?] using blank
    simp only [MemoryCache.serve, MemoryCache.remove, withKey, nonempty, if_false] at valid ⊢
    simp only [EagerCache.serve, EagerCache.handle, nonempty, if_false]
    refine ⟨rfl, related rfl valid ?_⟩
    rw [alive_erase, seen, EagerCache.entries_erase]
  | clear =>
    refine ⟨rfl, matching.config, valid, ?_⟩
    exact congrArg (alive · now) (EagerCache.entries_empty eager.config).symm
  | cleanup =>
    refine ⟨rfl, related rfl valid ?_⟩
    rw [sweep_of_fits matching.valid.fits, alive_alive (Instant.le_refl now), seen]
    rfl

theorem MemoryCache.matches_empty (config : CacheConfig) (now : Instant) :
    (empty config).Matches now (.empty config) :=
  ⟨rfl, valid_empty config, congrArg (alive · now) (EagerCache.entries_empty config).symm⟩

theorem MemoryCache.Matches.run {events : List CacheEvent} (matching : cache.Matches now eager)
    (order : Ascending now (events.map CacheEvent.now)) :
    cache.answers events = eager.answers events ∧
      (cache.after events).Matches ((events.map CacheEvent.now).getLastD now)
        (eager.after events) :=
  runEvents_simulation Matches (fun order matching => matching.wait order) Matches.serve
    matching order

/-- A cache with lazy expiry answers every request like the reference with eager expiry,
as long as its clock does not go back. So what two histories have left behind that is
expired by now makes no difference to any answer that is still to come. -/
theorem MemoryCache.answers_eq_eager_answers (config : CacheConfig) (start : Instant) :
    (∀ events : List CacheEvent, Ascending start (events.map CacheEvent.now) →
      (empty config).answers events = (EagerCache.empty config).answers events) ∧
    ∀ (past other later : List CacheEvent) (now : Instant),
      Ascending start (past.map CacheEvent.now ++ now :: later.map CacheEvent.now) →
      Ascending start (other.map CacheEvent.now ++ now :: later.map CacheEvent.now) →
      ((empty config).after past).entries.alive now =
        ((empty config).after other).entries.alive now →
      ((empty config).after past).answers later = ((empty config).after other).answers later := by
  refine ⟨fun events order => ((matches_empty config start).run order).1, ?_⟩
  intro past other later now order otherOrder sameAlive
  obtain ⟨pastOrder, rest⟩ := ascending_append.mp order
  obtain ⟨otherPastOrder, otherRest⟩ := ascending_append.mp otherOrder
  obtain ⟨reached, laterOrder⟩ := ascending_cons.mp rest
  have matching := ((matches_empty config start).run pastOrder).2.wait reached
  have otherMatching :=
    ((matches_empty config start).run otherPastOrder).2.wait (ascending_cons.mp otherRest).1
  -- Both caches match one and the same reference from now on.
  have crossed : ((empty config).after other).Matches now ((EagerCache.empty config).after past) :=
    ⟨by rw [← matching.config, config_after, config_after], otherMatching.valid,
      sameAlive.symm.trans matching.same⟩
  exact (matching.run laterOrder).1.trans (crossed.run laterOrder).1.symm

section StaleEntry

/-- One entry fits, and the first one has expired after two seconds. -/
def oneEntry : CacheConfig := ⟨.ofSeconds 60, 1⟩

def leftBehind : List CacheEvent :=
  [⟨.start, .first, .store "a" ⟨#[1]⟩ (some (.ofSeconds 1))⟩]

def droppedByRead : List CacheEvent :=
  leftBehind ++ [⟨⟨2000000000⟩, .first, .retrieve "a"⟩]

/-- The first store finds the cache full if the expired entry is still there. -/
def afterwards : List CacheEvent :=
  [⟨⟨2000000000⟩, .first, .store "b" ⟨#[2]⟩ none⟩,
    ⟨⟨3000000000⟩, .first, .store "c" ⟨#[3]⟩ (some .max)⟩,
    ⟨⟨3000000000⟩, .first, .retrieve "b"⟩,
    ⟨⟨4000000000⟩, .first, .contains "c"⟩]

theorem MemoryCache.answers_of_stale_entry :
    Ascending .start ((leftBehind ++ afterwards).map CacheEvent.now) ∧
    (empty oneEntry).answers (leftBehind ++ afterwards) =
      (EagerCache.empty oneEntry).answers (leftBehind ++ afterwards) ∧
    Ascending .start (leftBehind.map CacheEvent.now ++
      ⟨2000000000⟩ :: afterwards.map CacheEvent.now) ∧
    Ascending .start (droppedByRead.map CacheEvent.now ++
      ⟨2000000000⟩ :: afterwards.map CacheEvent.now) ∧
    ((empty oneEntry).after leftBehind).entries.alive ⟨2000000000⟩ =
      ((empty oneEntry).after droppedByRead).entries.alive ⟨2000000000⟩ ∧
    ((empty oneEntry).after leftBehind).answers afterwards =
      ((empty oneEntry).after droppedByRead).answers afterwards := by
  have order : Ascending .start ((leftBehind ++ afterwards).map CacheEvent.now) := by decide
  have leftOrder : Ascending .start (leftBehind.map CacheEvent.now ++
      ⟨2000000000⟩ :: afterwards.map CacheEvent.now) := by decide
  have readOrder : Ascending .start (droppedByRead.map CacheEvent.now ++
      ⟨2000000000⟩ :: afterwards.map CacheEvent.now) := by decide
  have sameAlive : ((empty oneEntry).after leftBehind).entries.alive ⟨2000000000⟩ =
      ((empty oneEntry).after droppedByRead).entries.alive ⟨2000000000⟩ := by decide +kernel
  obtain ⟨refines, forgets⟩ := answers_eq_eager_answers oneEntry .start
  exact ⟨order, refines _ order, leftOrder, readOrder, sameAlive,
    forgets leftBehind droppedByRead afterwards _ leftOrder readOrder sameAlive⟩

end StaleEntry

end Provision

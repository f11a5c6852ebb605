import Provision.Proofs.Cache.Calls

/-! A cache with a limit beside one without. Both get the same calls at the same instants,
which need not ascend. The limit makes a cache forget entries and do nothing else: what
it still holds is what the unlimited one holds, to the end of its life, even when the
clock goes back and an entry that only one of the two still has is alive again. -/

set_option autoImplicit false

namespace Provision

open CacheEntries

namespace CacheEntries

variable {entries : CacheEntries} {now : Instant} {tie : TieBreak}

theorem isOver_zero : isOver 0 entries = false := rfl

theorem stored_unlimited {entry : CacheEntry} :
    entries.stored tie 0 entry now = entries.insert entry.key entry := by
  simp [stored, isOver_zero]

end CacheEntries

namespace MemoryCache

variable {capped uncapped : MemoryCache}

/-- The first cache has only forgotten entries of the second, which has no limit. -/
structure Forgets (capped uncapped : MemoryCache) : Prop where
  agree : capped.entries.KeysAgree
  uncappedAgree : uncapped.entries.KeysAgree
  timeout : capped.config.timeout = uncapped.config.timeout
  unlimited : uncapped.config.maxSize = 0
  within : capped.entries.Within uncapped.entries

theorem lifetime_congr {config other : CacheConfig} (same : config.timeout = other.timeout)
    (ttl : Option Duration) : lifetime config ttl = lifetime other ttl := by
  cases ttl with
  | none => exact same
  | some given => simp only [lifetime, same]

theorem Forgets.serve (forgets : Forgets capped uncapped) (event : CacheEvent) :
    Forgets (capped.serve event).2 (uncapped.serve event).2 := by
  by_cases blank : event.request.key? = some ""
  · rw [serve_blank capped event blank, serve_blank uncapped event blank]
    exact forgets
  rw [serve_state forgets.agree event blank, serve_state forgets.uncappedAgree event blank]
  have related {fewer entries : CacheEntries} (agree : fewer.KeysAgree)
      (otherAgree : entries.KeysAgree) (within : fewer.Within entries) :
      Forgets { capped with entries := fewer } { uncapped with entries := entries } :=
    ⟨agree, otherAgree, forgets.timeout, forgets.unlimited, within⟩
  have looked (key : String) (now : Instant) := related
    ((looked_within _ key now).keysAgree forgets.agree)
    ((looked_within _ key now).keysAgree forgets.uncappedAgree) (forgets.within.looked key now)
  obtain ⟨now, tie, request⟩ := event
  cases request with
  | store key value ttl =>
    refine related forgets.agree.stored forgets.uncappedAgree.stored ?_
    simp only [entriesAfter, lifetime_congr forgets.timeout, forgets.unlimited, stored_unlimited]
    exact (stored_within forgets.agree).trans (forgets.within.insert key _)
  | retrieve key => exact looked key now
  | contains key => exact looked key now
  | remove key =>
    exact related ((erase_within _ key).keysAgree forgets.agree)
      ((erase_within _ key).keysAgree forgets.uncappedAgree) (forgets.within.erase key)
  | clear => exact related keysAgree_empty keysAgree_empty fun _ _ found => found
  | cleanup =>
    have unlimited : uncapped.entries.isOver uncapped.config.maxSize = false := by
      rw [forgets.unlimited]
      rfl
    have swept := sweep_within forgets.agree tie capped.config.maxSize now
    simp only [entriesAfter, sweep_of_fits unlimited]
    exact related (swept.keysAgree (forgets.agree.alive now)) (forgets.uncappedAgree.alive now)
      (swept.trans (forgets.within.alive now))

theorem Forgets.after (forgets : Forgets capped uncapped) (events : List CacheEvent) :
    Forgets (capped.after events) (uncapped.after events) := by
  induction events generalizing capped uncapped with
  | nil => exact forgets
  | cons event rest ih => exact ih (forgets.serve event)

theorem forgets_empty (timeout : Duration) (maxSize : Nat) :
    Forgets (empty ⟨timeout, maxSize⟩) (empty ⟨timeout, 0⟩) :=
  ⟨keysAgree_empty, keysAgree_empty, rfl, rfl, fun _ _ found => found⟩

/-- What is alive in the first cache is alive in the second, with the same value. -/
theorem Forgets.retrieveRaw (forgets : Forgets capped uncapped) (key : String) (now : Instant) :
    (retrieveRaw key now capped).1 = (retrieveRaw key now uncapped).1 ∨
      (retrieveRaw key now capped).1 = .ok none := by
  by_cases blank : key = ""
  · subst blank
    exact .inl rfl
  · rw [retrieveRaw_eq blank, retrieveRaw_eq blank]
    cases found : (capped.entries.alive now)[key]? with
    | none => exact .inr rfl
    | some entry =>
      rw [forgets.within.alive now key entry found]
      exact .inl rfl

/-- What a limit can change: entries are missing, and none is different. -/
structure OnlyForgets (capped uncapped : MemoryCache) : Prop where
  entries : ∀ (key : String) (entry : CacheEntry), capped.entries[key]? = some entry →
    uncapped.entries[key]? = some entry
  retrieves : ∀ (key : String) (now : Instant),
    (retrieveRaw key now capped).1 = (retrieveRaw key now uncapped).1 ∨
      (retrieveRaw key now capped).1 = .ok none
  missing : ∀ (key : String) (now : Instant), (retrieveRaw key now uncapped).1 = .ok none →
    (retrieveRaw key now capped).1 = .ok none

/-- After the same calls, at any instants, a cache with a limit has only forgotten
entries of the one without: it answers the same or finds nothing. -/
theorem limit_only_forgets (timeout : Duration) (maxSize : Nat) (calls : List CacheCall) :
    OnlyForgets ((empty ⟨timeout, maxSize⟩).afterCalls calls)
      ((empty ⟨timeout, 0⟩).afterCalls calls) := by
  rw [afterCalls_eq_after, afterCalls_eq_after]
  have forgets := (forgets_empty timeout maxSize).after (calls.filterMap CacheCall.event?)
  refine ⟨forgets.within, forgets.retrieveRaw, ?_⟩
  intro key now missing
  rcases forgets.retrieveRaw key now with same | nothing
  · rw [same, missing]
  · exact nothing

end MemoryCache

end Provision

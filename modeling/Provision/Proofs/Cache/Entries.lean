import Provision.Cache.Memory
import Provision.Proofs.Run

/-! Laws of the entries of a cache in memory: which of them are alive at an instant,
what a write, an eviction and a sweep leave, and how many there can be. An eviction
erases the key that is noted inside the entry it picked, so its laws need every
entry to lie under its own key. -/

set_option autoImplicit false

namespace Provision

instance : DecidableEq CacheEntry := fun a b =>
  decidable_of_iff
    (a.key = b.key ∧ a.value.data = b.value.data ∧ a.expiration = b.expiration) <| by
      cases a
      cases b
      simp [ByteArray.ext_iff]

instance : DecidableEq CacheEntries :=
  inferInstanceAs (DecidableEq (Std.ExtTreeMap String CacheEntry))

theorem Expiration.isPast_mono {s t : Instant} {ending : Expiration} (order : s ≤ t)
    (past : ending.isPast s = true) : ending.isPast t = true := by
  cases ending with
  | none => simp [isPast] at past
  | some ending =>
    simp only [isPast, decide_eq_true_eq, Instant.lt_def] at past ⊢
    exact Nat.lt_of_lt_of_le past order

/-- What is stored now is alive now, even if it is stored for no time. -/
theorem Expiration.after_not_past (now : Instant) (ttl : Duration) :
    (Expiration.after now ttl).isPast now = false := by
  cases ending : Expiration.after now ttl with
  | none => rfl
  | some later =>
    have nanos := (Instant.add?_eq_some_iff.mp ending).1
    simp only [isPast, decide_eq_false_iff_not, Instant.lt_def]
    omega

theorem CacheEntry.isExpired_new (key : String) (value : ByteArray) (now : Instant)
    (ttl : Duration) : (CacheEntry.new key value now ttl).isExpired now = false :=
  Expiration.after_not_past now ttl

theorem Expiration.noLaterThan_total (a b : Expiration) :
    a.noLaterThan b = true ∨ b.noLaterThan a = true := by
  cases a <;> cases b <;> simp [noLaterThan, Instant.le_def, Nat.le_total]

theorem Expiration.noLaterThan_trans {a b c : Expiration} (first : a.noLaterThan b = true)
    (second : b.noLaterThan c = true) : a.noLaterThan c = true := by
  cases c with
  | none => cases a <;> rfl
  | some c =>
    cases b with
    | none => simp [noLaterThan] at second
    | some b =>
      cases a with
      | none => simp [noLaterThan] at first
      | some a =>
        simp only [noLaterThan, decide_eq_true_eq] at first second ⊢
        exact Instant.le_trans first second

/-- Among finitely many entries there is one whose life ends no later than any other's. -/
theorem exists_soonest {entries : List CacheEntry} (nonempty : entries ≠ []) :
    ∃ entry ∈ entries, ∀ other ∈ entries,
      entry.expiration.noLaterThan other.expiration = true := by
  induction entries with
  | nil => exact absurd rfl nonempty
  | cons first rest ih =>
    have self : first.expiration.noLaterThan first.expiration = true :=
      (Expiration.noLaterThan_total _ _).elim id id
    by_cases single : rest = []
    · subst single
      exact ⟨first, by simp, by simpa using self⟩
    · obtain ⟨best, member, least⟩ := ih single
      rcases Expiration.noLaterThan_total first.expiration best.expiration with before | after
      · refine ⟨first, by simp, ?_⟩
        intro other otherMember
        rcases List.mem_cons.mp otherMember with rfl | inRest
        · exact self
        · exact Expiration.noLaterThan_trans before (least other inRest)
      · refine ⟨best, by simp [member], ?_⟩
        intro other otherMember
        rcases List.mem_cons.mp otherMember with rfl | inRest
        · exact after
        · exact least other inRest

namespace CacheEntries

variable {entries : CacheEntries} {key : String} {now : Instant}

/-- Every entry lies under the key that is noted in it. -/
def KeysAgree (entries : CacheEntries) : Prop :=
  ∀ (key : String) (entry : CacheEntry), entries[key]? = some entry → entry.key = key

theorem keysAgree_empty : KeysAgree ∅ := by
  intro key entry found
  simp at found

theorem KeysAgree.insert {entry : CacheEntry} (agree : KeysAgree entries)
    (same : entry.key = key) : KeysAgree (entries.insert key entry) := by
  intro k e found
  rw [Std.ExtTreeMap.getElem?_insert] at found
  split at found
  · next equal =>
    cases found
    exact same.trans (Std.LawfulEqCmp.eq_of_compare equal)
  · exact agree k e found

/-- Every entry of the first is an entry of the second, under the same key. -/
def Within (fewer entries : CacheEntries) : Prop :=
  ∀ (key : String) (entry : CacheEntry), fewer[key]? = some entry → entries[key]? = some entry

theorem Within.trans {fewer more : CacheEntries} (first : fewer.Within entries)
    (second : entries.Within more) : fewer.Within more :=
  fun key entry found => second key entry (first key entry found)

theorem Within.keysAgree {fewer : CacheEntries} (within : fewer.Within entries)
    (agree : KeysAgree entries) : KeysAgree fewer :=
  fun key entry found => agree key entry (within key entry found)

theorem Within.insert {fewer : CacheEntries} (within : fewer.Within entries) (key : String)
    (entry : CacheEntry) : Within (fewer.insert key entry) (entries.insert key entry) := by
  intro k held found
  rw [Std.ExtTreeMap.getElem?_insert] at found ⊢
  split at found
  · next same => rw [if_pos same, found]
  · next other => rw [if_neg other, within k held found]

theorem Within.erase {fewer : CacheEntries} (within : fewer.Within entries) (key : String) :
    Within (fewer.erase key) (entries.erase key) := by
  intro k held found
  rw [Std.ExtTreeMap.getElem?_erase] at found ⊢
  split at found
  · cases found
  · next other => rw [if_neg other, within k held found]

theorem erase_within (entries : CacheEntries) (gone : String) :
    Within (entries.erase gone) entries := by
  intro key entry found
  rw [Std.ExtTreeMap.getElem?_erase] at found
  split at found
  · cases found
  · exact found

theorem mem_all_iff {entry : CacheEntry} :
    entry ∈ all entries ↔ ∃ key : String, entries[key]? = some entry := by
  simp [all, Std.ExtTreeMap.mem_toList_iff_getElem?_eq_some]

/-! ## Entries that are alive -/

@[simp] theorem getElem?_alive :
    (alive entries now)[key]? = entries[key]?.filter fun entry => !entry.isExpired now :=
  Std.ExtTreeMap.getElem?_filter'

theorem getElem?_alive_eq_some_iff {entry : CacheEntry} :
    (alive entries now)[key]? = some entry ↔
      entries[key]? = some entry ∧ entry.isExpired now = false := by
  simp [Option.filter_eq_some_iff]

theorem alive_within (entries : CacheEntries) (now : Instant) :
    Within (alive entries now) entries :=
  fun _ _ found => (getElem?_alive_eq_some_iff.mp found).1

theorem Within.alive {fewer : CacheEntries} (within : fewer.Within entries) (now : Instant) :
    Within (fewer.alive now) (entries.alive now) := by
  intro key entry found
  obtain ⟨held, fresh⟩ := getElem?_alive_eq_some_iff.mp found
  exact getElem?_alive_eq_some_iff.mpr ⟨within key entry held, fresh⟩

theorem KeysAgree.alive (agree : KeysAgree entries) (now : Instant) :
    KeysAgree (entries.alive now) :=
  (alive_within entries now).keysAgree agree

theorem size_alive_le (entries : CacheEntries) (now : Instant) :
    (alive entries now).size ≤ entries.size :=
  Std.ExtTreeMap.size_filter_le_size

/-- What has expired stays so: looking later, nothing more is alive. -/
theorem alive_alive {later : Instant} (order : now ≤ later) :
    alive (alive entries now) later = alive entries later := by
  apply Std.ExtTreeMap.ext_getElem?
  intro key
  simp only [getElem?_alive, Option.filter_filter]
  congr 1
  funext entry
  cases old : entry.isExpired now with
  | false => simp
  | true => simp [CacheEntry.isExpired, Expiration.isPast_mono order old]

theorem alive_insert {entry : CacheEntry} (fresh : entry.isExpired now = false) :
    alive (entries.insert key entry) now = (alive entries now).insert key entry := by
  apply Std.ExtTreeMap.ext_getElem?
  intro k
  simp only [getElem?_alive, Std.ExtTreeMap.getElem?_insert]
  split <;> simp [fresh]

theorem alive_erase : alive (entries.erase key) now = (alive entries now).erase key := by
  apply Std.ExtTreeMap.ext_getElem?
  intro k
  simp only [getElem?_alive, Std.ExtTreeMap.getElem?_erase]
  split <;> simp

/-- Erasing the key of an expired entry takes away nothing that is alive. -/
theorem alive_erase_expired {entry : CacheEntry} (found : entries[key]? = some entry)
    (expired : entry.isExpired now = true) :
    alive (entries.erase key) now = alive entries now := by
  apply Std.ExtTreeMap.ext_getElem?
  intro k
  simp only [getElem?_alive, Std.ExtTreeMap.getElem?_erase]
  split
  · next same =>
    cases Std.LawfulEqCmp.eq_of_compare same
    simp [found, Option.filter, expired]
  · rfl

theorem alive_eq_self (fresh : ∀ (key : String) (entry : CacheEntry),
      entries[key]? = some entry → entry.isExpired now = false) :
    alive entries now = entries := by
  apply Std.ExtTreeMap.ext_getElem?
  intro key
  cases found : entries[key]? with
  | none => simp [found]
  | some entry => simp [found, fresh key entry found]

/-! ## Writes -/

/-- A write leaves the same entry whether it changes an old one or makes a new one. -/
theorem write_eq (agree : KeysAgree entries) (key : String) (value : ByteArray) (now : Instant)
    (ttl : Duration) :
    MemoryCache.write entries key value now ttl =
      entries.insert key (.new key value now ttl) := by
  unfold MemoryCache.write
  cases found : entries[key]? with
  | none => rfl
  | some entry => simp [CacheEntry.setValue, CacheEntry.new, agree key entry found]

/-! ## Evictions -/

theorem soonest_subset {entry : CacheEntry} (member : entry ∈ soonest entries) :
    entry ∈ all entries :=
  (List.mem_filter.mp member).1

theorem soonest_eq_nil (nothing : soonest entries = []) : all entries = [] := by
  cases listed : all entries with
  | nil => rfl
  | cons first rest =>
    have nonempty : all entries ≠ [] := by simp [listed]
    obtain ⟨entry, member, least⟩ := exists_soonest nonempty
    have chosen : entry ∈ soonest entries :=
      List.mem_filter.mpr ⟨member, List.all_eq_true.mpr least⟩
    simp [nothing] at chosen

/-- What is selected for an eviction lies under the key that is noted in it. -/
theorem KeysAgree.selected_found {tie : TieBreak} {selected : CacheEntry}
    (agree : KeysAgree entries) (selects : tie.pick (soonest entries) = some selected) :
    entries[selected.key]? = some selected := by
  obtain ⟨key, found⟩ := mem_all_iff.mp (soonest_subset (tie.pick_mem selects))
  rw [agree key selected found]
  exact found

theorem getElem?_evictOne {tie : TieBreak} {selected : CacheEntry}
    (selects : tie.pick (soonest entries) = some selected) (key : String) :
    (evictOne tie entries)[key]? = if key = selected.key then none else entries[key]? := by
  simp only [evictOne, selects, Std.ExtTreeMap.getElem?_erase]
  by_cases same : key = selected.key
  · simp [same]
  · simp [same, Ne.symm same]

/-- No entry ends before one that is selected for an eviction. -/
theorem noLaterThan_of_selected {tie : TieBreak} {selected survivor : CacheEntry}
    (selects : tie.pick (soonest entries) = some selected)
    (held : entries[key]? = some survivor) :
    selected.expiration.noLaterThan survivor.expiration = true :=
  List.all_eq_true.mp (List.mem_filter.mp (tie.pick_mem selects)).2 survivor
    (mem_all_iff.mpr ⟨key, held⟩)

/-- An eviction does nothing only if there is nothing; else it erases the key of one
entry whose life ends no later than that of any other. -/
theorem evictOne_cases (agree : KeysAgree entries) (tie : TieBreak) :
    (entries = ∅ ∧ evictOne tie entries = ∅) ∨
    ∃ (gone : String) (entry : CacheEntry), entries[gone]? = some entry ∧
      evictOne tie entries = entries.erase gone ∧
      ∀ (other : String) (survivor : CacheEntry), entries[other]? = some survivor →
        entry.expiration.noLaterThan survivor.expiration = true := by
  unfold evictOne
  cases picked : tie.pick (soonest entries) with
  | none =>
    have nothing : entries = ∅ := by
      apply Std.ExtTreeMap.ext_getElem?
      intro key
      cases found : entries[key]? with
      | none => simp
      | some entry =>
        have member := mem_all_iff.mpr ⟨key, found⟩
        simp [soonest_eq_nil (tie.pick_eq_none picked)] at member
    exact .inl ⟨nothing, nothing⟩
  | some entry =>
    have found := agree.selected_found picked
    refine .inr ⟨entry.key, entry, found, rfl, ?_⟩
    intro other survivor held
    exact noLaterThan_of_selected picked held

theorem evictOne_within (agree : KeysAgree entries) (tie : TieBreak) :
    Within (evictOne tie entries) entries := by
  rcases evictOne_cases agree tie with ⟨empty, nothing⟩ | ⟨gone, _, _, erased, _⟩
  · rw [nothing, empty]
    exact fun _ _ found => found
  · rw [erased]
    exact erase_within entries gone

theorem size_evictOne (agree : KeysAgree entries) (tie : TieBreak) :
    (evictOne tie entries).size = entries.size - 1 := by
  rcases evictOne_cases agree tie with ⟨empty, nothing⟩ | ⟨gone, entry, found, erased, _⟩
  · rw [nothing, empty]
    rfl
  · have member : entries.contains gone = true := by
      simp [Std.ExtTreeMap.contains_eq_isSome_getElem?, found]
    rw [erased, Std.ExtTreeMap.size_erase, if_pos member]

/-! ## Sweeps and the limit -/

theorem isOver_eq_false_iff {maxSize : Nat} :
    isOver maxSize entries = false ↔ maxSize = 0 ∨ entries.size ≤ maxSize := by
  unfold isOver
  grind

theorem isOver_mono {fewer : CacheEntries} {maxSize : Nat} (smaller : fewer.size ≤ entries.size)
    (fits : isOver maxSize entries = false) : isOver maxSize fewer = false := by
  rw [isOver_eq_false_iff] at fits ⊢
  omega

end CacheEntries

end Provision

import Mathlib.Data.List.Nodup
import Provision.Bag.Basic

/-! A bag is the bag of its own pairs, which are listed once for each key. The bag of any
pairs has a value under the keys of these pairs and under no other key. -/

set_option autoImplicit false

namespace Provision.Bag

variable {bag : Bag} {pairs : List (String × String)} {key value : String}

theorem get?_ofList : (ofList pairs).get? key = pairs.reverse.lookup key := by
  rw [ofList, get?_putAll, get?_empty, Option.or_none]

theorem mem_of_get?_ofList (found : (ofList pairs).get? key = some value) :
    (key, value) ∈ pairs := by
  rw [get?_ofList] at found
  obtain ⟨before, after, listed, -⟩ := List.lookup_eq_some_iff.mp found
  rw [← List.mem_reverse, listed]
  simp

/-- A key has the value of its last pair. -/
theorem get?_ofList_eq_some_iff :
    (ofList pairs).get? key = some value ↔
      ∃ before after, pairs = before ++ (key, value) :: after ∧ ∀ pair ∈ after, pair.1 ≠ key := by
  simp only [get?_ofList, List.lookup_eq_some_iff, bne_iff_ne]
  constructor
  · rintro ⟨after, before, listed, others⟩
    refine ⟨before.reverse, after.reverse, ?_, ?_⟩
    · rw [← List.reverse_reverse pairs, listed]
      simp
    · intro pair later
      exact (others pair (List.mem_reverse.mp later)).symm
  · rintro ⟨before, after, rfl, others⟩
    refine ⟨after.reverse, before.reverse, by simp, ?_⟩
    intro pair later
    exact (others pair (List.mem_reverse.mp later)).symm

theorem get?_ofList_eq_none_iff :
    (ofList pairs).get? key = none ↔ ∀ pair ∈ pairs, pair.1 ≠ key := by
  simp only [get?_ofList, List.lookup_eq_none_iff, List.mem_reverse, bne_iff_ne, ne_comm]

@[simp] theorem ofList_toList (bag : Bag) : ofList bag.toList = bag := by
  apply ext
  intro key
  cases found : (ofList bag.toList).get? key with
  | some value => exact (mem_toList_iff.mp (mem_of_get?_ofList found)).symm
  | none =>
    cases held : bag.get? key with
    | none => rfl
    | some value =>
      have other := get?_ofList_eq_none_iff.mp found (key, value) (mem_toList_iff.mpr held)
      exact absurd rfl other

theorem mem_keys_iff : key ∈ bag.keys ↔ (bag.get? key).isSome = true := by
  rw [keys, get?, Std.ExtTreeMap.mem_keys, Std.ExtTreeMap.mem_iff_isSome_getElem?]

theorem mem_keys_ofList_iff : key ∈ (ofList pairs).keys ↔ ∃ pair ∈ pairs, pair.1 = key := by
  rw [mem_keys_iff, Option.isSome_iff_ne_none, ne_eq, get?_ofList_eq_none_iff]
  simp

theorem isEmpty_iff : bag.isEmpty = true ↔ bag = empty := by
  cases bag
  simp [isEmpty, empty]

theorem isEmpty_iff_keys : bag.isEmpty = true ↔ ∀ key, key ∉ bag.keys := by
  rw [isEmpty_iff]
  constructor
  · rintro rfl key
    simp [mem_keys_iff]
  · intro keyless
    apply ext
    intro key
    simpa [mem_keys_iff] using keyless key

theorem isEmpty_ofList_iff : (ofList pairs).isEmpty = true ↔ pairs = [] := by
  simp only [isEmpty_iff_keys, mem_keys_ofList_iff, List.eq_nil_iff_forall_not_mem]
  constructor
  · intro keyless pair listed
    exact keyless pair.1 ⟨pair, listed, rfl⟩
  · rintro none key ⟨pair, listed, -⟩
    exact none pair listed

theorem nodup_toList (bag : Bag) : bag.toList.Nodup := by
  refine bag.map.distinct_keys_toList.imp ?_
  rintro first second apart rfl
  simp at apart

/-- Pairs under different keys are the pairs of their bag. -/
theorem toList_ofList_perm (distinct : (pairs.map Prod.fst).Nodup) :
    (ofList pairs).toList.Perm pairs := by
  refine (List.perm_ext_iff_of_nodup (nodup_toList _) distinct.of_map).mpr ?_
  rintro ⟨key, value⟩
  rw [mem_toList_iff]
  constructor
  · exact mem_of_get?_ofList
  · intro listed
    obtain ⟨before, after, rfl⟩ := List.mem_iff_append.mp listed
    refine get?_ofList_eq_some_iff.mpr ⟨before, after, rfl, ?_⟩
    intro pair later same
    rw [List.map_append, List.map_cons, List.nodup_append] at distinct
    exact (List.nodup_cons.mp distinct.2.1).1 (List.mem_map.mpr ⟨pair, later, same⟩)

/-- Of the pairs of a bag one at most is under a given key. -/
theorem filter_toList (bag : Bag) (key : String) :
    bag.toList.filter (·.1 = key) = (bag.get? key).toList.map (key, ·) := by
  have distinct := bag.nodup_toList
  have listed : ∀ pair, pair ∈ bag.toList.filter (·.1 = key) ↔
      pair ∈ (bag.get? key).toList.map (key, ·) := by
    rintro ⟨k, v⟩
    rw [List.mem_filter, mem_toList_iff, decide_eq_true_eq]
    constructor
    · rintro ⟨held, rfl⟩
      simp [held]
    · intro single
      obtain ⟨value, held, same⟩ := List.mem_map.mp single
      cases same
      simpa using held
  cases found : bag.get? key with
  | none => simpa [found, List.eq_nil_iff_forall_not_mem] using listed
  | some value =>
    rw [found] at listed
    exact List.perm_singleton.mp ((List.perm_ext_iff_of_nodup (distinct.filter _)
      (List.nodup_singleton _)).mpr listed)

end Provision.Bag

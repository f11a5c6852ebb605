/-! Members of objects and tables as pairs of a key and a value. Setting keys one after
the other, starting from no members, gives members whose keys ascend, each key once. -/

set_option autoImplicit false

namespace Provision.Keyed

/-- Sets a key of an ascending member list; a key that is already there keeps its
place and takes the new value. -/
def set {α : Type} (key : String) (value : α) : List (String × α) → List (String × α)
  | [] => [(key, value)]
  | (k, v) :: rest =>
    if key = k then (k, value) :: rest
    else if key < k then (key, value) :: (k, v) :: rest
    else (k, v) :: set key value rest

/-- Every key of a member list is below the later ones. -/
def Ascending {α : Type} (members : List (String × α)) : Prop :=
  members.Pairwise fun a b => a.1 < b.1

/-- After setting a key, the keys are the old ones and the new one. -/
theorem mem_keys_set {α : Type} {key : String} {value : α} {members : List (String × α)}
    {k : String} :
    k ∈ (set key value members).map Prod.fst ↔ k = key ∨ k ∈ members.map Prod.fst := by
  induction members with
  | nil => simp [set]
  | cons m rest ih =>
    obtain ⟨k', v⟩ := m
    unfold set
    split
    · rename_i same
      subst same
      simp
    · split
      · simp
      · simp only [List.map_cons, List.mem_cons, ih]
        grind

/-- Setting a key keeps the members ascending. -/
theorem Ascending.set {α : Type} {members : List (String × α)} (ascending : Ascending members)
    (key : String) (value : α) : Ascending (set key value members) := by
  induction members with
  | nil => simp [Keyed.set, Ascending]
  | cons m rest ih =>
    obtain ⟨k, v⟩ := m
    obtain ⟨above, tail⟩ := List.pairwise_cons.1 ascending
    unfold Keyed.set
    split
    · exact List.pairwise_cons.2 ⟨above, tail⟩
    · rename_i distinct
      split
      · rename_i below
        refine List.pairwise_cons.2 ⟨?_, ascending⟩
        intro m member
        rcases List.mem_cons.1 member with rfl | later
        · exact below
        · exact String.lt_trans below (above m later)
      · rename_i notBelow
        have beyond : k < key :=
          String.not_le.1 fun le => distinct (String.le_antisymm le (String.not_lt.1 notBelow))
        refine List.pairwise_cons.2 ⟨?_, ih tail⟩
        intro m member
        have key_mem : m.1 ∈ (Keyed.set key value rest).map Prod.fst :=
          List.mem_map_of_mem member
        rcases mem_keys_set.1 key_mem with same | older
        · exact same ▸ beyond
        · obtain ⟨m', member', same⟩ := List.mem_map.1 older
          exact same ▸ above m' member'

end Provision.Keyed

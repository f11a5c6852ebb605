import Provision.Proofs.Bag.Section
import Provision.Proofs.Text.Numeral

/-! A list of rows of pairs goes into one bag: each row is the section whose name is the
position of the row. The sections come back in the order of the rows, although the keys of
a bag are in the order of their characters, where `10` stands before `2`. A row without
pairs leaves no section. -/

set_option autoImplicit false

namespace Provision.Bag

variable {rows : List (List (String × String))} {row : List (String × String)}
variable {start position other : Nat} {name : String}

/-- The pairs of rows, each row in the section of its position. -/
def numbered (start : Nat) (rows : List (List (String × String))) : List (String × String) :=
  (rows.zipIdx start).flatMap fun (row, position) => row.map (inSection (toString position))

theorem numbered_cons :
    numbered start (row :: rows) =
      row.map (inSection (toString start)) ++ numbered (start + 1) rows := rfl

/-! ## The section of a position -/

theorem isSectionName_toString (position : Nat) : IsSectionName (toString position) where
  nonempty := Text.toString_ne_empty
  pointFree := Text.not_mem_toString (by decide)

theorem sectionPairs_map_position (distinct : position ≠ other) :
    sectionPairs (toString position) (row.map (inSection (toString other))) = [] :=
  sectionPairs_map_other (isSectionName_toString _) (isSectionName_toString _)
    (mt Text.toString_inj.mp distinct)

theorem sectionPairs_numbered_of_lt (before : position < start) :
    sectionPairs (toString position) (numbered start rows) = [] := by
  induction rows generalizing start with
  | nil => rfl
  | cons row rows ih =>
    rw [numbered_cons, sectionPairs_append, sectionPairs_map_position (Nat.ne_of_lt before),
      ih (Nat.lt_succ_of_lt before), List.append_nil]

/-- The section of a position has the pairs of the row at this position. -/
theorem sectionPairs_numbered (placed : (row, position) ∈ rows.zipIdx start) :
    sectionPairs (toString position) (numbered start rows) = row := by
  -- rows after the first have higher positions, whatever the position of the first
  induction rows generalizing start with
  | nil => cases placed
  | cons first rows ih =>
    rw [numbered_cons, sectionPairs_append]
    rcases List.mem_cons.mp placed with here | later
    · cases here
      rw [sectionPairs_map_inSection, sectionPairs_numbered_of_lt (Nat.lt_succ_self _),
        List.append_nil]
    · have beyond : start < position := List.le_snd_of_mem_zipIdx later
      rw [sectionPairs_map_position (Nat.ne_of_gt beyond), ih later, List.nil_append]

/-! ## The names of the sections -/

theorem mem_sectionNames_numbered_iff :
    name ∈ (ofList (numbered start rows)).sectionNames ↔
      ∃ row position, (row, position) ∈ rows.zipIdx start ∧ row ≠ [] ∧ toString position = name := by
  simp only [mem_sectionNames_iff, mem_keys_ofList_iff, numbered, List.mem_flatMap, List.mem_map]
  constructor
  · rintro ⟨key, ⟨pair, ⟨⟨row, position⟩, placed, own, listed, rfl⟩, rfl⟩, named⟩
    have same := (isSectionName_toString position).sectionOf?_fullKey own.1
    exact ⟨row, position, placed, List.ne_nil_of_mem listed, Option.some.inj (same.symm.trans named)⟩
  · rintro ⟨row, position, placed, filled, rfl⟩
    obtain ⟨own, listed⟩ := List.exists_mem_of_ne_nil row filled
    exact ⟨_, ⟨_, ⟨(row, position), placed, own, listed, rfl⟩, rfl⟩,
      (isSectionName_toString position).sectionOf?_fullKey own.1⟩

theorem namePrecedes_toString (before : position < other) (fits : other < Word.count 64) :
    namePrecedes (toString position) (toString other) = true := by
  rw [namePrecedes_iff, Text.unsigned64?_toString (Nat.lt_trans before fits),
    Text.unsigned64?_toString fits]
  exact .inl before

theorem zipIdx_ascending {α : Type} (start : Nat) (rows : List α) :
    (rows.zipIdx start).Pairwise fun a b => a.2 < b.2 := by
  have positions : ((rows.zipIdx start).map Prod.snd).Pairwise (· < ·) := by
    rw [List.zipIdx_map_snd]
    exact List.pairwise_lt_range'
  exact List.pairwise_map.mp positions

/-- The names are the positions of the rows with pairs, in ascending order. -/
theorem sectionNames_numbered (fits : rows.length ≤ Word.count 64) :
    (ofList (numbered 0 rows)).sectionNames =
      (rows.zipIdx.filter fun (row, _) => !row.isEmpty).map fun (_, position) =>
        toString position := by
  have ascending := (zipIdx_ascending 0 rows).filter fun (row, _) => !row.isEmpty
  apply sectionNames_eq
  case ordered =>
    refine List.pairwise_map.mpr (ascending.imp_of_mem ?_)
    intro before after _ listed less
    have bound := List.snd_lt_of_mem_zipIdx (List.mem_of_mem_filter listed)
    exact namePrecedes_toString less (Nat.lt_of_lt_of_le (by simpa using bound) fits)
  case distinct =>
    refine List.pairwise_map.mpr (ascending.imp ?_)
    intro before after less same
    exact Nat.ne_of_lt less (Text.toString_inj.mp same)
  case same =>
    intro name
    simp [mem_sectionNames_numbered_iff, and_assoc]

/-- The sections of numbered rows, in the order of their names, are the bags of the rows
that have pairs. -/
theorem map_sectionAt_numbered (fits : rows.length ≤ Word.count 64) :
    (ofList (numbered 0 rows)).sectionNames.map (ofList (numbered 0 rows)).sectionAt =
      (rows.map ofList).filter fun bag => !bag.isEmpty := by
  have filled : ((fun bag : Bag => !bag.isEmpty) ∘ ofList) = fun row => !row.isEmpty := by
    funext row
    exact congrArg not (Bool.eq_iff_iff.mpr (isEmpty_ofList_iff.trans List.isEmpty_iff.symm))
  have restored : ∀ placed ∈ rows.zipIdx.filter (fun (row, _) => !row.isEmpty),
      (ofList (numbered 0 rows)).sectionAt (toString placed.2) = ofList placed.1 := by
    intro placed listed
    rw [sectionAt_ofList, sectionPairs_numbered (List.mem_of_mem_filter listed)]
  calc (ofList (numbered 0 rows)).sectionNames.map (ofList (numbered 0 rows)).sectionAt
      = (rows.zipIdx.filter fun (row, _) => !row.isEmpty).map fun placed =>
          (ofList (numbered 0 rows)).sectionAt (toString placed.2) := by
        rw [sectionNames_numbered fits, List.map_map]
        rfl
    _ = (rows.zipIdx.filter fun (row, _) => !row.isEmpty).map (ofList ∘ Prod.fst) :=
        List.map_congr_left restored
    _ = ((rows.zipIdx.map Prod.fst).filter fun row => !row.isEmpty).map ofList := by
        rw [List.filter_map, List.map_map]
        rfl
    _ = (rows.map ofList).filter fun bag => !bag.isEmpty := by
        rw [List.zipIdx_map_fst, List.filter_map, filled]

end Provision.Bag

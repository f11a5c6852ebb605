import Mathlib.Data.List.Nodup
import Provision.Bag.Section
import Provision.Proofs.Bag.Pairs
import Provision.Proofs.Text.Pieces

/-! A section has the values that the bag has under the full keys of the section. The
names of the sections are the non-empty texts that stand before the first point of a key.
They are listed once each, in an order that is total, so that any list of the same names
in this order is that list. -/

set_option autoImplicit false

namespace Provision.Bag

/-- A pair of a section as a pair of the bag that has the section. -/
def inSection (name : String) (pair : String × String) : String × String :=
  (name ++ "." ++ pair.1, pair.2)

theorem inSection_inSection (outer inner : String) (pair : String × String) :
    inSection outer (inSection inner pair) = inSection (outer ++ "." ++ inner) pair := by
  simp [inSection, String.append_assoc]

def sectionPairs (name : String) (pairs : List (String × String)) : List (String × String) :=
  pairs.filterMap fun (key, value) => (keyIn? name key).map (·, value)

/-- A text that can be the name of a section. -/
structure IsSectionName (name : String) : Prop where
  nonempty : name ≠ ""
  pointFree : '.' ∉ name.toList

section Keys

variable {name other key rest : String}

theorem keyIn?_eq_some_iff : keyIn? name key = some rest ↔ key = name ++ "." ++ rest :=
  Text.after?_eq_some_iff

theorem keyIn?_eq_none_iff : keyIn? name key = none ↔ ∀ rest, key ≠ name ++ "." ++ rest := by
  simp only [Option.eq_none_iff_forall_ne_some, ne_eq, keyIn?_eq_some_iff]

theorem keyIn?_fullKey (name rest : String) : keyIn? name (name ++ "." ++ rest) = some rest :=
  keyIn?_eq_some_iff.mpr rfl

/-- A key is in the section that it names before its first point. -/
theorem sectionOf?_eq_some_iff :
    sectionOf? key = some name ↔ IsSectionName name ∧ ∃ rest, key = name ++ "." ++ rest := by
  constructor
  · intro named
    unfold sectionOf? at named
    split at named
    next opening rest cut =>
      obtain ⟨free, point, isPoint, whole⟩ := Text.cutFirst_eq_some_iff.mp cut
      obtain rfl : point = '.' := by simpa using isPoint
      split at named
      · cases named
      next present =>
        obtain rfl := Option.some.inj named
        refine ⟨⟨?nonempty, ?pointFree⟩, String.ofList rest, ?split⟩
        case nonempty =>
          intro blank
          rw [← String.toList_inj, String.toList_ofList] at blank
          simp [blank] at present
        case pointFree =>
          intro among
          rw [String.toList_ofList] at among
          simpa using free '.' among
        case split =>
          rw [← String.toList_inj, whole]
          simp
    next => cases named
  · rintro ⟨⟨nonempty, pointFree⟩, rest, rfl⟩
    have cut : Text.cutFirst (· == '.') (name ++ "." ++ rest).toList =
        (name.toList, some rest.toList) := by
      refine Text.cutFirst_eq_some_iff.mpr ⟨?_, '.', rfl, by simp⟩
      intro c among
      exact beq_eq_false_iff_ne.mpr fun same => pointFree (same ▸ among)
    rw [sectionOf?, cut]
    simp [nonempty]

theorem IsSectionName.sectionOf?_fullKey (proper : IsSectionName name) (rest : String) :
    sectionOf? (name ++ "." ++ rest) = some name :=
  sectionOf?_eq_some_iff.mpr ⟨proper, rest, rfl⟩

/-- A key is in one section only. -/
theorem IsSectionName.keyIn?_other (proper : IsSectionName name) (otherProper : IsSectionName other)
    (distinct : name ≠ other) : keyIn? name (other ++ "." ++ rest) = none := by
  rw [Option.eq_none_iff_forall_ne_some]
  intro own found
  have same := proper.sectionOf?_fullKey own
  rw [← keyIn?_eq_some_iff.mp found, otherProper.sectionOf?_fullKey] at same
  exact distinct (Option.some.inj same).symm

end Keys

section Values

variable {name other key : String} {pairs more : List (String × String)}

theorem sectionAt_eq (bag : Bag) (name : String) :
    bag.sectionAt name = ofList (sectionPairs name bag.toList) := rfl

@[simp] theorem sectionPairs_append :
    sectionPairs name (pairs ++ more) = sectionPairs name pairs ++ sectionPairs name more :=
  List.filterMap_append

theorem sectionPairs_cons (pair : String × String) :
    sectionPairs name (pair :: pairs) =
      ((keyIn? name pair.1).map (·, pair.2)).toList ++ sectionPairs name pairs := by
  obtain ⟨full, value⟩ := pair
  simp only [sectionPairs, List.filterMap_cons]
  cases keyIn? name full <;> rfl

theorem sectionPairs_map_inSection :
    sectionPairs name (pairs.map (inSection name)) = pairs := by
  rw [sectionPairs, List.filterMap_map]
  refine (List.filterMap_congr ?_).trans List.filterMap_some
  intro pair _
  simp [inSection, keyIn?_fullKey]

theorem sectionPairs_map_other (proper : IsSectionName name) (otherProper : IsSectionName other)
    (distinct : name ≠ other) : sectionPairs name (pairs.map (inSection other)) = [] := by
  rw [sectionPairs, List.filterMap_map, List.filterMap_eq_nil_iff]
  intro pair _
  simp [inSection, proper.keyIn?_other otherProper distinct]

/-- Taking the point and the name off the keys keeps different keys apart. -/
theorem lookup_sectionPairs :
    (sectionPairs name pairs).lookup key = pairs.lookup (name ++ "." ++ key) := by
  induction pairs with
  | nil => rfl
  | cons pair rest ih =>
    obtain ⟨full, value⟩ := pair
    rw [sectionPairs_cons]
    cases found : keyIn? name full with
    | none =>
      have other : name ++ "." ++ key ≠ full := by
        rintro rfl
        rw [keyIn?_fullKey] at found
        cases found
      simpa [List.lookup_cons, beq_eq_false_iff_ne.mpr other] using ih
    | some own =>
      obtain rfl := keyIn?_eq_some_iff.mp found
      by_cases same : key = own
      · simp [same]
      · have other : name ++ "." ++ key ≠ name ++ "." ++ own := by
          simpa [String.append_right_inj] using same
        simpa [List.lookup_cons, beq_eq_false_iff_ne.mpr other,
          beq_eq_false_iff_ne.mpr same] using ih

theorem get?_ofList_sectionPairs :
    (ofList (sectionPairs name pairs)).get? key = (ofList pairs).get? (name ++ "." ++ key) := by
  rw [get?_ofList, get?_ofList, ← lookup_sectionPairs, sectionPairs, sectionPairs,
    List.filterMap_reverse]

theorem get?_sectionAt (bag : Bag) (name key : String) :
    (bag.sectionAt name).get? key = bag.get? (name ++ "." ++ key) := by
  rw [sectionAt_eq, get?_ofList_sectionPairs, ofList_toList]

@[simp] theorem sectionAt_empty : empty.sectionAt name = empty := by
  apply ext
  intro key
  rw [get?_sectionAt, get?_empty, get?_empty]

theorem sectionAt_ofList : (ofList pairs).sectionAt name = ofList (sectionPairs name pairs) := by
  apply ext
  intro key
  rw [get?_sectionAt, get?_ofList_sectionPairs]

/-- Some key of a bag has a name and a point in front. -/
def HasKeyUnder (bag : Bag) (name : String) : Prop :=
  ∃ rest, name ++ "." ++ rest ∈ bag.keys

theorem mem_keys_sectionAt {bag : Bag} :
    key ∈ (bag.sectionAt name).keys ↔ name ++ "." ++ key ∈ bag.keys := by
  rw [mem_keys_iff, get?_sectionAt, mem_keys_iff]

theorem isEmpty_sectionAt {bag : Bag} :
    (bag.sectionAt name).isEmpty = true ↔ ¬ bag.HasKeyUnder name := by
  simp only [isEmpty_iff_keys, mem_keys_sectionAt, HasKeyUnder, not_exists]

theorem hasKeyUnder_sectionAt {bag : Bag} :
    (bag.sectionAt name).HasKeyUnder other ↔ bag.HasKeyUnder (name ++ "." ++ other) := by
  simp only [HasKeyUnder, mem_keys_sectionAt, String.append_assoc]

end Values

/-! ## The order of names -/

section Order

variable {a b c : String}

/-- Numbers come first, and then the texts of two names decide. -/
theorem namePrecedes_iff :
    namePrecedes a b = true ↔
      match Text.unsigned64? a, Text.unsigned64? b with
      | some m, some n => m < n ∨ m = n ∧ a ≤ b
      | some _, none => True
      | none, some _ => False
      | none, none => a ≤ b := by
  unfold namePrecedes
  cases Text.unsigned64? a <;> cases Text.unsigned64? b <;> simp

theorem namePrecedes_total (a b : String) : (namePrecedes a b || namePrecedes b a) = true := by
  have texts := String.le_total a b
  rw [Bool.or_eq_true, namePrecedes_iff, namePrecedes_iff]
  cases Text.unsigned64? a <;> cases Text.unsigned64? b
  case some.some m n => rcases Nat.lt_trichotomy m n with less | same | more <;> simp_all
  case none.none => exact texts
  all_goals simp

theorem namePrecedes_trans (a b c : String) (first : namePrecedes a b = true)
    (second : namePrecedes b c = true) : namePrecedes a c = true := by
  revert first second
  simp only [namePrecedes_iff]
  cases Text.unsigned64? a <;> cases Text.unsigned64? b <;> cases Text.unsigned64? c
  case some.some.some l m n =>
    rintro (less | ⟨rfl, first⟩) (later | ⟨rfl, second⟩)
    · exact .inl (Nat.lt_trans less later)
    · exact .inl less
    · exact .inl later
    · exact .inr ⟨rfl, String.le_trans first second⟩
  case none.none.none => exact String.le_trans
  all_goals simp

theorem namePrecedes_antisymm (first : namePrecedes a b = true)
    (second : namePrecedes b a = true) : a = b := by
  revert first second
  simp only [namePrecedes_iff]
  cases Text.unsigned64? a <;> cases Text.unsigned64? b
  case some.some m n =>
    rintro (less | ⟨same, first⟩) (more | ⟨same', second⟩)
    · exact absurd (Nat.lt_trans less more) (Nat.lt_irrefl m)
    · exact absurd same' (Nat.ne_of_gt less)
    · exact absurd same (Nat.ne_of_gt more)
    · exact String.le_antisymm first second
  case none.none => exact String.le_antisymm
  all_goals simp

end Order

/-! ## The list of names -/

section Names

variable {bag : Bag} {name : String} {names : List String}

theorem nodup_eraseDups (names : List String) : names.eraseDups.Nodup := by
  -- what is left after a name without its repetitions is shorter, but need not be the rest
  induction listed : names.length using Nat.strongRecOn generalizing names with
  | ind count ih =>
    cases names with
    | nil => simp
    | cons name rest =>
      have shorter : (rest.filter fun other => !other == name).length < count := by
        rw [← listed, List.length_cons]
        exact Nat.lt_succ_of_le (List.length_filter_le _ _)
      rw [List.eraseDups_cons, List.nodup_cons]
      exact ⟨by simp, ih _ shorter _ rfl⟩

theorem nodup_sectionNames (bag : Bag) : bag.sectionNames.Nodup :=
  (List.mergeSort_perm _ _).nodup_iff.mpr (nodup_eraseDups _)

theorem sectionNames_ordered (bag : Bag) :
    bag.sectionNames.Pairwise fun a b => namePrecedes a b = true :=
  List.pairwise_mergeSort namePrecedes_trans namePrecedes_total _

theorem mem_sectionNames_iff :
    name ∈ bag.sectionNames ↔ ∃ key ∈ bag.keys, sectionOf? key = some name := by
  rw [sectionNames, List.mem_mergeSort, List.mem_eraseDups, List.mem_filterMap]

/-- Some key of a bag has a name before its first point. -/
structure HasSection (bag : Bag) (name : String) : Prop where
  proper : IsSectionName name
  keyed : ∃ rest, name ++ "." ++ rest ∈ bag.keys

theorem mem_sectionNames_iff_hasSection : name ∈ bag.sectionNames ↔ bag.HasSection name := by
  simp only [mem_sectionNames_iff, sectionOf?_eq_some_iff]
  constructor
  · rintro ⟨key, held, proper, rest, rfl⟩
    exact ⟨proper, rest, held⟩
  · rintro ⟨proper, rest, held⟩
    exact ⟨_, held, proper, rest, rfl⟩

instance (bag : Bag) (name : String) : Decidable (bag.HasSection name) :=
  decidable_of_iff _ mem_sectionNames_iff_hasSection

@[simp] theorem sectionNames_empty : empty.sectionNames = [] := by
  simp [List.eq_nil_iff_forall_not_mem, mem_sectionNames_iff, mem_keys_iff]

/-- Names that are the names of the sections, once each and in their order, are listed so. -/
theorem sectionNames_eq (ordered : names.Pairwise fun a b => namePrecedes a b = true)
    (distinct : names.Nodup) (same : ∀ name, name ∈ names ↔ name ∈ bag.sectionNames) :
    bag.sectionNames = names := by
  refine List.Perm.eq_of_pairwise (fun _ _ _ _ => namePrecedes_antisymm)
    (sectionNames_ordered bag) ordered ?_
  refine (List.perm_ext_iff_of_nodup (nodup_sectionNames bag) distinct).mpr ?_
  intro name
  exact (same name).symm

end Names

end Provision.Bag

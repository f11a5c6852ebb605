import Provision.Proofs.Bag.Override
import Provision.Proofs.Text.Bytes
import Provision.Proofs.Text.Numeral

/-! The sections of a bag as its parts. Their names are told by the keys alone, and stand in
one order whatever the values are. Copying each section back under its name gives the bag
again, less the keys that belong to no section: those without a point, and those in which
nothing stands before the first point. -/

set_option autoImplicit false

namespace Provision.Bag

/-- The order in which sections are named. Numbers come before all other names, by their
value; where no value decides, the bytes of the names do. -/
inductive NamedBefore (first second : String) : Prop where
  | value {m n : Nat} : Text.IsNumeral first m → Text.IsNumeral second n → m < n →
      NamedBefore first second
  | spelling {n : Nat} : Text.IsNumeral first n → Text.IsNumeral second n →
      Text.bytes first < Text.bytes second → NamedBefore first second
  | number {n : Nat} : Text.IsNumeral first n → (∀ m, ¬ Text.IsNumeral second m) →
      NamedBefore first second
  | text : (∀ m, ¬ Text.IsNumeral first m) → (∀ m, ¬ Text.IsNumeral second m) →
      Text.bytes first < Text.bytes second → NamedBefore first second

section Order

variable {first second : String}

theorem bytes_lt_of_le (order : first ≤ second) (distinct : first ≠ second) :
    Text.bytes first < Text.bytes second := by
  refine Text.bytes_lt_iff.mpr (String.not_le.mp ?_)
  intro after
  exact distinct (String.le_antisymm order after)

theorem namedBefore_of_namePrecedes (order : namePrecedes first second = true)
    (distinct : first ≠ second) : NamedBefore first second := by
  rw [namePrecedes_iff] at order
  cases read : Text.unsigned64? first with
  | some m =>
    have numeral := Text.unsigned64?_eq_some_iff.mp read
    cases read' : Text.unsigned64? second with
    | some n =>
      have numeral' := Text.unsigned64?_eq_some_iff.mp read'
      simp only [read, read'] at order
      rcases order with less | ⟨rfl, texts⟩
      · exact .value numeral numeral' less
      · exact .spelling numeral numeral' (bytes_lt_of_le texts distinct)
    | none => exact .number numeral (Text.unsigned64?_eq_none_iff.mp read')
  | none =>
    have wordy := Text.unsigned64?_eq_none_iff.mp read
    cases read' : Text.unsigned64? second with
    | some n => simp [read, read'] at order
    | none =>
      simp only [read, read'] at order
      exact .text wordy (Text.unsigned64?_eq_none_iff.mp read') (bytes_lt_of_le order distinct)

theorem sectionNames_namedBefore (bag : Bag) : bag.sectionNames.Pairwise NamedBefore := by
  have distinct : bag.sectionNames.Pairwise (· ≠ ·) := nodup_sectionNames bag
  refine (sectionNames_ordered bag).imp₂ ?_ distinct
  intro first second order different
  exact namedBefore_of_namePrecedes order different

end Order

section Stability

/-- The order of names in which equal numbers are not told apart. -/
def valuePrecedes (first second : String) : Bool :=
  match Text.unsigned64? first, Text.unsigned64? second with
  | some m, some n => m ≤ n
  | some _, none => true
  | none, some _ => false
  | none, none => decide (first ≤ second)

theorem valuePrecedes_total (first second : String) :
    (valuePrecedes first second || valuePrecedes second first) = true := by
  unfold valuePrecedes
  cases Text.unsigned64? first <;> cases Text.unsigned64? second
  case some.some m n => simpa using Nat.le_total m n
  case none.none => simpa using String.le_total first second
  all_goals rfl

theorem valuePrecedes_trans (first second third : String)
    (before : valuePrecedes first second = true) (after : valuePrecedes second third = true) :
    valuePrecedes first third = true := by
  revert before after
  unfold valuePrecedes
  cases Text.unsigned64? first <;> cases Text.unsigned64? second <;> cases Text.unsigned64? third
  case some.some.some l m n => simpa using Nat.le_trans
  case none.none.none => simpa using String.le_trans
  all_goals simp

theorem namePrecedes_of_valuePrecedes {first second : String}
    (order : valuePrecedes first second = true)
    (spelling : valuePrecedes second first = true → first ≤ second) :
    namePrecedes first second = true := by
  revert order spelling
  rw [namePrecedes_iff]
  unfold valuePrecedes
  cases Text.unsigned64? first <;> cases Text.unsigned64? second
  case some.some m n =>
    intro order spelling
    simp only [decide_eq_true_iff] at order spelling
    rcases Nat.lt_or_eq_of_le order with less | same
    · exact .inl less
    · exact .inr ⟨same, spelling (Nat.le_of_eq same.symm)⟩
  case none.none => simpa using fun order _ => order
  all_goals simp

/-- Sorting names by value keeps equal numbers in the order of their bytes, if they come in it. -/
theorem namePrecedes_mergeSort {names : List String} (ascending : names.Pairwise (· ≤ ·)) :
    (names.mergeSort valuePrecedes).Pairwise fun first second =>
      namePrecedes first second = true := by
  -- a stable sort keeps the order of places where the values are equal
  rw [← List.mergeSort_zipIdx, List.pairwise_map]
  have sorted := List.pairwise_mergeSort (List.zipIdxLE_trans valuePrecedes_trans)
    (List.zipIdxLE_total valuePrecedes_total) names.zipIdx
  refine sorted.imp_of_mem ?_
  intro first second listed listed' order
  obtain ⟨bound, place⟩ := List.getElem?_eq_some_iff.mp
    (List.mk_mem_zipIdx_iff_getElem?.mp (List.mem_mergeSort.mp listed))
  obtain ⟨bound', place'⟩ := List.getElem?_eq_some_iff.mp
    (List.mk_mem_zipIdx_iff_getElem?.mp (List.mem_mergeSort.mp listed'))
  unfold List.zipIdxLE at order
  split at order
  case isFalse => cases order
  case isTrue forward =>
    refine namePrecedes_of_valuePrecedes forward ?_
    intro backward
    rw [if_pos backward, decide_eq_true_iff] at order
    rw [← place, ← place']
    rcases Nat.lt_or_eq_of_le order with earlier | same
    · exact List.pairwise_iff_getElem.mp ascending _ _ bound bound' earlier
    · simp [same]

/-- The names in the order of their bytes, sorted by value with a stable sort. -/
theorem sectionNames_eq_stable (bag : Bag) :
    bag.sectionNames = ((bag.keys.filterMap sectionOf?).eraseDups.mergeSort
      fun first second => decide (first ≤ second)).mergeSort valuePrecedes := by
  refine sectionNames_eq (namePrecedes_mergeSort ?ascending) ?distinct ?same
  case ascending =>
    have sorted : ((bag.keys.filterMap sectionOf?).eraseDups.mergeSort fun first second =>
        decide (first ≤ second)).Pairwise fun first second => decide (first ≤ second) = true := by
      apply List.pairwise_mergeSort
      · intro first second third
        simpa using String.le_trans
      · intro first second
        simpa using String.le_total first second
    exact sorted.imp of_decide_eq_true
  case distinct =>
    simp only [(List.mergeSort_perm _ _).nodup_iff]
    exact nodup_eraseDups _
  case same =>
    intro name
    simp only [List.mem_mergeSort, sectionNames]

end Stability

/-- A key with a point and something before its first point. -/
def InSomeSection (key : String) : Prop :=
  ∃ name, IsSectionName name ∧ ∃ rest, key = name ++ "." ++ rest

/-- Copies the sections of some names, in the order of these names. -/
def copySections (bag : Bag) (names : List String) (copy : Bag) : Bag :=
  names.foldl (fun copy name => copy.addSection name (bag.sectionAt name)) copy

section Copies

variable {bag copy : Bag} {name key : String} {names : List String}

theorem get?_addSection_own (own : sectionOf? key = some name) :
    (copy.addSection name (bag.sectionAt name)).get? key =
      (bag.get? key).or (copy.get? key) := by
  obtain ⟨proper, rest, rfl⟩ := sectionOf?_eq_some_iff.mp own
  rw [get?_addSection proper.nonempty, keyIn?_fullKey, Option.bind_some, get?_sectionAt]

theorem get?_addSection_elsewhere (proper : IsSectionName name)
    (elsewhere : sectionOf? key ≠ some name) :
    (copy.addSection name (bag.sectionAt name)).get? key = copy.get? key := by
  refine get?_addSection_other proper.nonempty copy _ ?_
  intro rest whole
  exact elsewhere (sectionOf?_eq_some_iff.mpr ⟨proper, rest, whole⟩)

theorem get?_copySections_other (proper : ∀ name ∈ names, IsSectionName name)
    (others : ∀ name ∈ names, sectionOf? key ≠ some name) :
    (copySections bag names copy).get? key = copy.get? key := by
  induction names generalizing copy with
  | nil => rfl
  | cons name rest ih =>
    obtain ⟨proper, restProper⟩ := List.forall_mem_cons.mp proper
    obtain ⟨other, restOthers⟩ := List.forall_mem_cons.mp others
    rw [copySections, List.foldl_cons, ← copySections, ih restProper restOthers]
    exact get?_addSection_elsewhere proper other

/-- A key of a section that is copied has its value in the bag that the section is from. -/
theorem get?_copySections_own (proper : ∀ name ∈ names, IsSectionName name)
    (own : sectionOf? key = some name) (listed : name ∈ names) :
    (copySections bag names copy).get? key = (bag.get? key).or (copy.get? key) := by
  induction names generalizing copy with
  | nil => cases listed
  | cons first rest ih =>
    obtain ⟨firstProper, restProper⟩ := List.forall_mem_cons.mp proper
    rw [copySections, List.foldl_cons, ← copySections]
    by_cases later : name ∈ rest
    · rw [ih restProper later]
      by_cases here : first = name
      · subst here
        rw [get?_addSection_own own, ← Option.or_assoc, Option.or_self]
      · rw [get?_addSection_elsewhere firstProper (by simpa [own] using Ne.symm here)]
    · obtain rfl : name = first := (List.mem_cons.mp listed).resolve_right later
      have others : ∀ other ∈ rest, sectionOf? key ≠ some other := by
        intro other among same
        obtain rfl : name = other := Option.some.inj (own.symm.trans same)
        exact later among
      rw [get?_copySections_other restProper others, get?_addSection_own own]

theorem sectionNames_proper (bag : Bag) : ∀ name ∈ bag.sectionNames, IsSectionName name := by
  intro name listed
  exact (mem_sectionNames_iff_hasSection.mp listed).proper

theorem get?_copySections_within (within : InSomeSection key) :
    (copySections bag bag.sectionNames empty).get? key = bag.get? key := by
  obtain ⟨name, proper, rest, rfl⟩ := within
  have own := proper.sectionOf?_fullKey rest
  by_cases listed : name ∈ bag.sectionNames
  · rw [get?_copySections_own (sectionNames_proper bag) own listed, get?_empty, Option.or_none]
  · have absent : name ++ "." ++ rest ∉ bag.keys := fun held =>
      listed (mem_sectionNames_iff_hasSection.mpr ⟨proper, rest, held⟩)
    have others : ∀ other ∈ bag.sectionNames, sectionOf? (name ++ "." ++ rest) ≠ some other := by
      intro other among same
      obtain rfl : name = other := Option.some.inj (own.symm.trans same)
      exact listed among
    have missing : bag.get? (name ++ "." ++ rest) = none := by
      simpa [mem_keys_iff] using absent
    rw [get?_copySections_other (sectionNames_proper bag) others, get?_empty, missing]

theorem get?_copySections_beyond (outside : ¬ InSomeSection key) :
    (copySections bag bag.sectionNames empty).get? key = none := by
  have others : ∀ name ∈ bag.sectionNames, sectionOf? key ≠ some name := by
    intro name _ own
    obtain ⟨proper, rest, whole⟩ := sectionOf?_eq_some_iff.mp own
    exact outside ⟨name, proper, rest, whole⟩
  rw [get?_copySections_other (sectionNames_proper bag) others, get?_empty]

end Copies

/-- What the names of the sections of a bag tell, and what their sections make up. -/
structure SectionsDecompose (bag : Bag) : Prop where
  once : bag.sectionNames.Nodup
  complete (name : String) : name ∈ bag.sectionNames ↔ bag.HasSection name
  ordered : bag.sectionNames.Pairwise NamedBefore
  rebuilt (key : String) : InSomeSection key →
    (copySections bag bag.sectionNames empty).get? key = bag.get? key
  beyond (key : String) : ¬ InSomeSection key →
    (copySections bag bag.sectionNames empty).get? key = none

theorem sectionsDecompose (bag : Bag) : SectionsDecompose bag := by
  constructor
  case once => exact nodup_sectionNames bag
  case complete =>
    intro name
    exact mem_sectionNames_iff_hasSection
  case ordered => exact sectionNames_namedBefore bag
  case rebuilt =>
    intro key within
    exact get?_copySections_within within
  case beyond =>
    intro key outside
    exact get?_copySections_beyond outside

end Provision.Bag

import Provision.Proofs.Bag.Section

/-! Bags put over one another, and bags moved into a section. A key has the value of the
topmost bag that has the key, so it is of no account in which order three bags are put
together. The keys of a section are kept apart by the rest of the key, so a bag that is
moved into a section is found there unchanged, and nothing of it is found elsewhere. -/

set_option autoImplicit false

namespace Provision.Bag

section Override

variable {pairs more : List (String × String)} {key : String}

theorem lookup_reverse_toList (bag : Bag) (key : String) :
    bag.toList.reverse.lookup key = bag.get? key := by
  rw [← get?_ofList, ofList_toList]

theorem get?_overrideWith (bag other : Bag) (key : String) :
    (bag.overrideWith other).get? key = (other.get? key).or (bag.get? key) := by
  rw [overrideWith, get?_putAll, lookup_reverse_toList]

theorem putAll_eq_overrideWith (bag : Bag) (pairs : List (String × String)) :
    bag.putAll pairs = bag.overrideWith (ofList pairs) := by
  apply ext
  intro key
  rw [get?_putAll, get?_overrideWith, get?_ofList]

theorem ofList_append : ofList (pairs ++ more) = (ofList pairs).overrideWith (ofList more) := by
  rw [← putAll_eq_overrideWith, ofList, putAll_append, ← ofList]

theorem overrideWith_assoc (first second third : Bag) :
    (first.overrideWith second).overrideWith third =
      first.overrideWith (second.overrideWith third) := by
  apply ext
  intro key
  simp only [get?_overrideWith, Option.or_assoc]

@[simp] theorem overrideWith_self (bag : Bag) : bag.overrideWith bag = bag := by
  apply ext
  intro key
  rw [get?_overrideWith, Option.or_self]

@[simp] theorem overrideWith_empty (bag : Bag) : bag.overrideWith empty = bag := by
  apply ext
  intro key
  rw [get?_overrideWith, get?_empty, Option.none_or]

@[simp] theorem empty_overrideWith (bag : Bag) : empty.overrideWith bag = bag := by
  apply ext
  intro key
  rw [get?_overrideWith, get?_empty, Option.or_none]

end Override

section Sections

variable {bag added : Bag} {name other key : String}

theorem sectionAt_sectionAt (bag : Bag) (outer inner : String) :
    (bag.sectionAt outer).sectionAt inner = bag.sectionAt (outer ++ "." ++ inner) := by
  apply ext
  intro key
  simp only [get?_sectionAt, String.append_assoc]

theorem sectionAt_overrideWith (bag other : Bag) (name : String) :
    (bag.overrideWith other).sectionAt name =
      (bag.sectionAt name).overrideWith (other.sectionAt name) := by
  apply ext
  intro key
  simp only [get?_sectionAt, get?_overrideWith]

/-- A bag as the section of a name, with nothing beside it. -/
def under (name : String) (bag : Bag) : Bag :=
  ofList (bag.toList.map (inSection name))

theorem sectionAt_under (name : String) (bag : Bag) : (bag.under name).sectionAt name = bag := by
  rw [under, sectionAt_ofList, sectionPairs_map_inSection, ofList_toList]

theorem get?_under (name : String) (bag : Bag) (key : String) :
    (bag.under name).get? key = (keyIn? name key).bind bag.get? := by
  cases found : keyIn? name key with
  | some rest =>
    obtain rfl := keyIn?_eq_some_iff.mp found
    rw [← get?_sectionAt, sectionAt_under]
    rfl
  | none =>
    refine get?_ofList_eq_none_iff.mpr ?_
    intro pair listed same
    obtain ⟨own, -, rfl⟩ := List.mem_map.mp listed
    rw [← same, inSection, keyIn?_fullKey] at found
    cases found

theorem addSection_eq_putAll (bag : Bag) (name : String) (added : Bag) :
    bag.addSection name added =
      bag.putAll (added.toList.map fun pair => (fullKey name pair.1, pair.2)) :=
  rfl

theorem addSection_eq (nonempty : name ≠ "") (bag added : Bag) :
    bag.addSection name added = bag.overrideWith (added.under name) := by
  have pairs : (added.toList.map fun pair => (fullKey name pair.1, pair.2)) =
      added.toList.map (inSection name) := by
    refine List.map_congr_left ?_
    intro pair _
    rw [fullKey, if_neg nonempty, inSection]
  rw [addSection_eq_putAll, pairs, putAll_eq_overrideWith, under]

theorem addSection_unnamed (bag added : Bag) :
    bag.addSection "" added = bag.overrideWith added := by
  have pairs : (added.toList.map fun pair => (fullKey "" pair.1, pair.2)) = added.toList := by
    simp [fullKey]
  rw [addSection_eq_putAll, pairs, overrideWith]

theorem sectionAt_addSection (nonempty : name ≠ "") (bag added : Bag) :
    (bag.addSection name added).sectionAt name = (bag.sectionAt name).overrideWith added := by
  rw [addSection_eq nonempty, sectionAt_overrideWith, sectionAt_under]

theorem get?_addSection (nonempty : name ≠ "") (bag added : Bag) (key : String) :
    (bag.addSection name added).get? key =
      ((keyIn? name key).bind added.get?).or (bag.get? key) := by
  rw [addSection_eq nonempty, get?_overrideWith, get?_under]

theorem get?_addSection_other (nonempty : name ≠ "") (bag added : Bag)
    (other : ∀ rest, key ≠ name ++ "." ++ rest) :
    (bag.addSection name added).get? key = bag.get? key := by
  rw [get?_addSection nonempty, keyIn?_eq_none_iff.mpr other, Option.bind_none, Option.none_or]

end Sections

/-- What holds of sections and of bags put over one another, whatever the names and the
keys are. Only the section without a name is not apart from the rest of its bag. -/
structure SectionLaws (a b s : Bag) (n m : String) : Prop where
  nested : (a.sectionAt n).sectionAt m = a.sectionAt (n ++ "." ++ m)
  added : n ≠ "" → (a.addSection n s).sectionAt n = (a.sectionAt n).overrideWith s
  beside : n ≠ "" → ∀ key, ¬ (n ++ ".").toList <+: key.toList →
    (a.addSection n s).get? key = a.get? key
  unnamed : a.addSection "" s = a.overrideWith s
  overridden : (a.overrideWith b).sectionAt n = (a.sectionAt n).overrideWith (b.sectionAt n)
  topmost : ∀ key, (a.overrideWith b).get? key = (b.get? key).or (a.get? key)
  assoc : (a.overrideWith b).overrideWith s = a.overrideWith (b.overrideWith s)
  self : a.overrideWith a = a
  empty_right : a.overrideWith empty = a
  empty_left : empty.overrideWith a = a
  defaults : a.withDefaults b = b.overrideWith a

theorem sectionLaws (a b s : Bag) (n m : String) : SectionLaws a b s n m := by
  constructor
  case nested => exact sectionAt_sectionAt a n m
  case added =>
    intro nonempty
    exact sectionAt_addSection nonempty a s
  case beside =>
    intro nonempty key beside
    refine get?_addSection_other nonempty a s ?_
    rintro rest rfl
    refine beside ⟨rest.toList, ?_⟩
    rw [← String.toList_append]
  case unnamed => exact addSection_unnamed a s
  case overridden => exact sectionAt_overrideWith a b n
  case topmost => exact get?_overrideWith a b
  case assoc => exact overrideWith_assoc a b s
  case self => exact overrideWith_self a
  case empty_right => exact overrideWith_empty a
  case empty_left => exact empty_overrideWith a
  case defaults => rfl

-- points in the name of a section and in keys are not special
example :
    ((ofList [("dock..x", "1"), ("docks.x", "2")]).addSection "dock"
        (ofList [(".x", "3"), ("y", "4")])).toList =
      [("dock..x", "3"), ("dock.y", "4"), ("docks.x", "2")] := by
  decide +kernel

end Provision.Bag

import Std.Data.ExtTreeMap

/-! A bag holds text values under text keys. Two bags that hold the same values under the
same keys are equal, whatever led to them, and the keys are listed in ascending order of
their code points. Everything about a bag is seen through `get?`; each operation has one
lemma that says what it does to that view. -/

set_option autoImplicit false

namespace Provision

/-- Values by key, listed in ascending order of keys. -/
structure Bag where
  map : Std.ExtTreeMap String String
deriving DecidableEq

namespace Bag

def get? (bag : Bag) (key : String) : Option String :=
  bag.map[key]?

/-- Bags with the same values are equal. -/
theorem ext {a b : Bag} (same : ∀ key, a.get? key = b.get? key) : a = b := by
  cases a
  cases b
  exact congrArg Bag.mk (Std.ExtTreeMap.ext_getElem? same)

def empty : Bag := ⟨∅⟩

@[simp] theorem get?_empty (key : String) : empty.get? key = none :=
  Std.ExtTreeMap.getElem?_empty

/-- Gives a key a value and answers with the one that it takes the place of. -/
def replace (bag : Bag) (key value : String) : Option String × Bag :=
  (bag.get? key, ⟨bag.map.insert key value⟩)

/-- Gives a key a value, whatever it had before. -/
def put (bag : Bag) (key value : String) : Bag :=
  (bag.replace key value).2

theorem get?_put (bag : Bag) (key value k : String) :
    (bag.put key value).get? k = if key = k then some value else bag.get? k := by
  simp [put, replace, get?, Std.ExtTreeMap.getElem?_insert]

/-- Takes a key out and answers with the value that it had. -/
def remove (bag : Bag) (key : String) : Option String × Bag :=
  (bag.get? key, ⟨bag.map.erase key⟩)

theorem get?_remove (bag : Bag) (key k : String) :
    (bag.remove key).2.get? k = if key = k then none else bag.get? k := by
  simp [remove, get?, Std.ExtTreeMap.getElem?_erase]

def size (bag : Bag) : Nat :=
  bag.map.size

def isEmpty (bag : Bag) : Bool :=
  bag.map.isEmpty

/-- The keys and values in ascending order of keys. -/
def toList (bag : Bag) : List (String × String) :=
  bag.map.toList

def keys (bag : Bag) : List String :=
  bag.map.keys

theorem mem_toList_iff {bag : Bag} {key value : String} :
    (key, value) ∈ bag.toList ↔ bag.get? key = some value := by
  simp [toList, get?, Std.ExtTreeMap.mem_toList_iff_getElem?_eq_some]

def contains (bag : Bag) (key : String) : Bool :=
  (bag.get? key).isSome

/-- Puts pairs one after the other, so that of two with one key the later one counts. -/
def putAll (bag : Bag) (pairs : List (String × String)) : Bag :=
  pairs.foldl (fun b pair => b.put pair.1 pair.2) bag

@[simp] theorem putAll_nil (bag : Bag) : bag.putAll [] = bag := rfl

@[simp] theorem putAll_cons (bag : Bag) (pair : String × String) (pairs : List (String × String)) :
    bag.putAll (pair :: pairs) = (bag.put pair.1 pair.2).putAll pairs := rfl

theorem putAll_append (bag : Bag) (pairs more : List (String × String)) :
    bag.putAll (pairs ++ more) = (bag.putAll pairs).putAll more := by
  simp [putAll]

/-- After putting pairs, a key has the value of its last pair, or else its old one. -/
theorem get?_putAll (bag : Bag) (pairs : List (String × String)) (key : String) :
    (bag.putAll pairs).get? key = (pairs.reverse.lookup key).or (bag.get? key) := by
  induction pairs generalizing bag with
  | nil => simp
  | cons pair pairs ih =>
    obtain ⟨k, v⟩ := pair
    rw [putAll_cons, ih, get?_put, List.reverse_cons, List.lookup_append, Option.or_assoc]
    by_cases same : k = key
    · simp [same]
    · have distinct : (key == k) = false := by simpa using Ne.symm same
      simp [same, List.lookup_cons, distinct]

/-- The bag of some pairs, of which the last one counts for each key. -/
def ofList (pairs : List (String × String)) : Bag :=
  empty.putAll pairs

/-- A bag with the values of another one put in; those win. -/
def overrideWith (bag other : Bag) : Bag :=
  bag.putAll other.toList

/-- A bag with the keys that it lacks filled in from another one. -/
def withDefaults (bag defaults : Bag) : Bag :=
  defaults.overrideWith bag

end Bag

end Provision

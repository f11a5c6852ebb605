import Mathlib.Data.List.Forall2
import Provision.Configuration

/-! A configuration tree has tables, lists, texts, whole numbers and truth values. It can
be given as JSON or as TOML. Each format has its own walk through its own values, but both
list the members of a table in the order of their keys, and so both walks put the same
pairs into the bag in the same order. This holds also where two ways through the tree meet
in one key and the later one counts. -/

set_option autoImplicit false

namespace Provision

/-- A configuration tree, with the members of a table in the order in which they are set. -/
inductive ConfigTree where
  | text (value : String)
  | whole (value : Int)
  | truth (value : Bool)
  | list (items : List ConfigTree)
  | table (members : List (String × ConfigTree))

namespace ConfigTree

mutual

def json : ConfigTree → Json.Value
  | .text value => .string value
  | .whole value => .number (.integer value)
  | .truth value => .bool value
  | .list items => .array (jsonItems items)
  | .table members => .object (jsonMembers [] members)

def jsonItems : List ConfigTree → List Json.Value
  | [] => []
  | item :: rest => item.json :: jsonItems rest

/-- The members of an object after setting further ones. -/
def jsonMembers (done : List (String × Json.Value)) :
    List (String × ConfigTree) → List (String × Json.Value)
  | [] => done
  | (key, tree) :: rest => jsonMembers (Keyed.set key tree.json done) rest

end

mutual

def toml : ConfigTree → Toml.Value
  | .text value => .scalar (.string value)
  | .whole value => .scalar (.integer value)
  | .truth value => .scalar (.bool value)
  | .list items => .array (tomlItems items)
  | .table members => .table (tomlMembers [] members)

def tomlItems : List ConfigTree → List Toml.Value
  | [] => []
  | item :: rest => item.toml :: tomlItems rest

def tomlMembers (done : List (String × Toml.Value)) :
    List (String × ConfigTree) → List (String × Toml.Value)
  | [] => done
  | (key, tree) :: rest => tomlMembers (Keyed.set key tree.toml done) rest

end

/-! ## Values that put the same pairs -/

def SamePairs (json : Json.Value) (toml : Toml.Value) : Prop :=
  ∀ key, json.pairs key = toml.pairs key

/-- Members have the same keys in the same order, and their values put the same pairs. -/
def SameMembers : List (String × Json.Value) → List (String × Toml.Value) → Prop :=
  List.Forall₂ fun a b => a.1 = b.1 ∧ SamePairs a.2 b.2

section Agreement

variable {items : List Json.Value} {others : List Toml.Value}
variable {members : List (String × Json.Value)} {entries : List (String × Toml.Value)}

theorem itemPairs_eq (same : List.Forall₂ SamePairs items others) (key : String)
    (position : Nat) : Json.itemPairs key position items = Toml.itemPairs key position others := by
  induction same generalizing position with
  | nil => rfl
  | cons first _ ih => rw [Json.itemPairs, Toml.itemPairs, first, ih]

theorem memberPairs_eq (same : SameMembers members entries) (key : String) :
    Json.memberPairs key members = Toml.memberPairs key entries := by
  induction same with
  | nil => rfl
  | @cons member entry _ _ first _ ih =>
    obtain ⟨child, value⟩ := member
    obtain ⟨_, other⟩ := entry
    obtain ⟨rfl, pairs⟩ := first
    rw [Json.memberPairs, Toml.memberPairs, pairs, ih]

theorem topPairs_eq (same : SameMembers members entries) :
    Json.topPairs members = Toml.topPairs entries := by
  induction same with
  | nil => rfl
  | @cons member entry _ _ first _ ih =>
    obtain ⟨child, value⟩ := member
    obtain ⟨_, other⟩ := entry
    obtain ⟨rfl, pairs⟩ := first
    exact congrArg₂ (· ++ ·) (pairs child) ih

/-- A key that is set on both sides gets the same place on both. -/
theorem SameMembers.set (same : SameMembers members entries) (key : String)
    {value : Json.Value} {other : Toml.Value} (pairs : SamePairs value other) :
    SameMembers (Keyed.set key value members) (Keyed.set key other entries) := by
  induction same with
  | nil => exact .cons ⟨rfl, pairs⟩ .nil
  | @cons member entry _ _ first rest ih =>
    obtain ⟨child, held⟩ := member
    obtain ⟨_, kept⟩ := entry
    obtain ⟨rfl, old⟩ := first
    unfold Keyed.set
    split
    · exact .cons ⟨rfl, pairs⟩ rest
    · split
      · exact .cons ⟨rfl, pairs⟩ (.cons ⟨rfl, old⟩ rest)
      · exact .cons ⟨rfl, old⟩ ih

end Agreement

/-! ## Both forms of a tree -/

mutual

theorem samePairs : ∀ tree : ConfigTree, SamePairs tree.json tree.toml
  | .text _ => fun _ => rfl
  | .whole _ => fun _ => rfl
  | .truth value => by
    intro key
    cases value <;> rfl
  | .list items => by
    intro key
    exact itemPairs_eq (sameItems items) key 0
  | .table members => by
    intro key
    exact memberPairs_eq (sameMembers members .nil) key

theorem sameItems : ∀ items : List ConfigTree,
    List.Forall₂ SamePairs (jsonItems items) (tomlItems items)
  | [] => .nil
  | item :: rest => .cons item.samePairs (sameItems rest)

theorem sameMembers : ∀ (members : List (String × ConfigTree))
    {done : List (String × Json.Value)} {others : List (String × Toml.Value)},
    SameMembers done others → SameMembers (jsonMembers done members) (tomlMembers others members)
  | [], _, _, same => same
  | (key, tree) :: rest, _, _, same => sameMembers rest (same.set key tree.samePairs)

end

/-- A tree of tables gives one bag, whether it is a JSON object or a TOML document. -/
theorem ofJson_eq_ofToml (members : List (String × ConfigTree)) :
    ∃ entries, (ConfigTree.table members).toml = .table entries ∧
      Bag.ofJson (ConfigTree.table members).json = .ok (Bag.ofToml entries) := by
  refine ⟨tomlMembers [] members, by rw [toml], ?_⟩
  rw [json, Bag.ofJson, Bag.ofToml, topPairs_eq (sameMembers members .nil)]

-- `a` stands before `a.b`, so the member with the longer key counts, though it is set first
example :
    (Bag.ofToml (tomlMembers [] [("a.b", .text "1"), ("a", .table [("b", .text "2")])])).get? "a.b" =
      some "1" := by
  rfl

end ConfigTree

end Provision

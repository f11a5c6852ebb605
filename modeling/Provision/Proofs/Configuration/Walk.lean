import Provision.Configuration
import Provision.Proofs.Bag.Numbered

/-! What a value puts into a bag does not depend on where the value stands: under a longer
key it puts the same pairs, all in one section more. So an object under a key puts the
pairs that it puts on its own, in the section of that key, and an array of objects puts
their pairs in numbered sections. A value puts nothing exactly if it has no scalar
inside. -/

set_option autoImplicit false

namespace Provision.Json

open Bag (inSection inSection_inSection numbered)

section Placement

variable (name : String)

mutual

theorem Value.pairs_inSection (key : String) :
    ∀ value : Value, value.pairs (name ++ "." ++ key) = (value.pairs key).map (inSection name)
  | .null => rfl
  | .bool _ | .number _ | .string _ => rfl
  | .array items => by
    rw [Value.pairs, Value.pairs]
    exact itemPairs_inSection key 0 items
  | .object members => by
    rw [Value.pairs, Value.pairs]
    exact memberPairs_inSection key members

theorem itemPairs_inSection (key : String) :
    ∀ (position : Nat) (items : List Value),
      itemPairs (name ++ "." ++ key) position items =
        (itemPairs key position items).map (inSection name)
  | _, [] => rfl
  | position, item :: rest => by
    have placed := item.pairs_inSection (key ++ "." ++ toString position)
    rw [← String.append_assoc, ← String.append_assoc] at placed
    rw [itemPairs, itemPairs, List.map_append, placed, itemPairs_inSection key (position + 1) rest]

theorem memberPairs_inSection (key : String) :
    ∀ members : List (String × Value),
      memberPairs (name ++ "." ++ key) members = (memberPairs key members).map (inSection name)
  | [] => rfl
  | (child, value) :: rest => by
    have placed := value.pairs_inSection (key ++ "." ++ child)
    rw [← String.append_assoc, ← String.append_assoc] at placed
    rw [memberPairs, memberPairs, List.map_append, placed, memberPairs_inSection key rest]

end

theorem memberPairs_eq (members : List (String × Value)) :
    memberPairs name members = (topPairs members).map (inSection name) := by
  induction members with
  | nil => rfl
  | cons member rest ih =>
    obtain ⟨child, value⟩ := member
    rw [memberPairs, topPairs, List.flatMap_cons, List.map_append, value.pairs_inSection, ih]
    rfl

theorem itemPairs_objects (start : Nat) (objects : List (List (String × Value))) :
    itemPairs name start (objects.map .object) =
      (numbered start (objects.map topPairs)).map (inSection name) := by
  induction objects generalizing start with
  | nil => rfl
  | cons members rest ih =>
    have placed : inSection name ∘ inSection (toString start) =
        inSection (name ++ "." ++ toString start) :=
      funext (inSection_inSection name (toString start))
    rw [List.map_cons, itemPairs, Value.pairs, memberPairs_eq, ih, List.map_cons,
      Bag.numbered_cons, List.map_append, List.map_map, placed]

end Placement

/-! ## Values without scalars -/

/-- A value has a scalar other than null anywhere inside. -/
inductive Value.HasScalar : Value → Prop where
  | bool (value : Bool) : HasScalar (.bool value)
  | number (value : Number) : HasScalar (.number value)
  | string (value : String) : HasScalar (.string value)
  | item {items : List Value} {item : Value} (listed : item ∈ items) (inside : item.HasScalar) :
      HasScalar (.array items)
  | member {members : List (String × Value)} {key : String} {value : Value}
      (listed : (key, value) ∈ members) (inside : value.HasScalar) : HasScalar (.object members)

theorem Value.hasScalar_array_iff {items : List Value} :
    (Value.array items).HasScalar ↔ ∃ item ∈ items, item.HasScalar := by
  constructor
  · rintro (_ | _ | _ | ⟨listed, inside⟩)
    exact ⟨_, listed, inside⟩
  · rintro ⟨item, listed, inside⟩
    exact .item listed inside

theorem Value.hasScalar_object_iff {members : List (String × Value)} :
    (Value.object members).HasScalar ↔ ∃ key value, (key, value) ∈ members ∧ value.HasScalar := by
  constructor
  · rintro (_ | _ | _ | _ | ⟨listed, inside⟩)
    exact ⟨_, _, listed, inside⟩
  · rintro ⟨key, value, listed, inside⟩
    exact .member listed inside

mutual

theorem Value.pairs_eq_nil_iff (key : String) :
    ∀ value : Value, value.pairs key = [] ↔ ¬ value.HasScalar
  | .null => by
    rw [Value.pairs]
    exact iff_of_true rfl nofun
  | .bool value => by simp [Value.pairs, Value.HasScalar.bool]
  | .number value => by simp [Value.pairs, Value.HasScalar.number]
  | .string value => by simp [Value.pairs, Value.HasScalar.string]
  | .array items => by
    rw [Value.pairs, itemPairs_eq_nil_iff key 0 items, Value.hasScalar_array_iff]
    simp
  | .object members => by
    rw [Value.pairs, memberPairs_eq_nil_iff key members, Value.hasScalar_object_iff]
    simp

theorem itemPairs_eq_nil_iff (key : String) :
    ∀ (position : Nat) (items : List Value),
      itemPairs key position items = [] ↔ ∀ item ∈ items, ¬ item.HasScalar
  | _, [] => by simp [itemPairs]
  | position, item :: rest => by
    rw [itemPairs, List.append_eq_nil_iff, item.pairs_eq_nil_iff,
      itemPairs_eq_nil_iff key (position + 1) rest, List.forall_mem_cons]

theorem memberPairs_eq_nil_iff (key : String) :
    ∀ members : List (String × Value),
      memberPairs key members = [] ↔ ∀ member ∈ members, ¬ member.2.HasScalar
  | [] => by simp [memberPairs]
  | (child, value) :: rest => by
    rw [memberPairs, List.append_eq_nil_iff, value.pairs_eq_nil_iff,
      memberPairs_eq_nil_iff key rest, List.forall_mem_cons]

end

theorem topPairs_eq_nil_iff {members : List (String × Value)} :
    topPairs members = [] ↔ ¬ (Value.object members).HasScalar := by
  simp only [topPairs, List.flatMap_eq_nil_iff, Value.pairs_eq_nil_iff, Value.hasScalar_object_iff,
    Prod.forall, not_exists, not_and]

end Provision.Json

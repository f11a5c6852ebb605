import Mathlib.Data.List.Lex
import Provision.Configuration
import Provision.Proofs.Bag.Numbered
import Provision.Proofs.Text.Pieces

/-! The scalars that stand at the ends of the paths through a JSON object. Each of them puts
one pair into the bag, under the steps of its path joined by points, and nothing else in the
object puts any. Paths may be joined to the same key; then the last one in the order of the
walk has the key. That order is the order of the paths, and where no key has a point in it
no two paths are joined to the same key. -/

set_option autoImplicit false

namespace Provision.Json

/-- A step into a value: to the member of an object, or to the item of an array. -/
inductive Step where
  | key (name : String)
  | position (index : Nat)
deriving DecidableEq

namespace Step

def text : Step → String
  | .key name => name
  | .position index => toString index

/-- The order in which the members of an object are walked, and the items of an array. -/
inductive Before : Step → Step → Prop where
  | key {name other : String} (less : name < other) : Before (.key name) (.key other)
  | position {index other : Nat} (less : index < other) : Before (.position index) (.position other)

theorem Before.asymm {first second : Step} (before : Before first second) :
    ¬ Before second first := by
  intro after
  cases before with
  | key less =>
    cases after with
    | key more => exact String.lt_asymm less more
  | position less =>
    cases after with
    | position more => exact Nat.lt_asymm less more

end Step

/-- A scalar other than null, as the value of a key, with the path to it. -/
structure Leaf where
  path : List Step
  text : String
deriving DecidableEq

namespace Leaf

/-- The steps of the path, joined by points. -/
def key (leaf : Leaf) : String :=
  Text.joined '.' (leaf.path.map Step.text)

/-- One leaf is walked to before another one. -/
def Before (first second : Leaf) : Prop :=
  List.Lex Step.Before first.path second.path

theorem Before.asymm {first second : Leaf} (before : Before first second) :
    ¬ Before second first :=
  List.lex_asymm Step.Before.asymm before

def under (step : Step) (leaf : Leaf) : Leaf :=
  ⟨step :: leaf.path, leaf.text⟩

/-- The pair that a leaf puts into a bag. -/
def pair (leaf : Leaf) : String × String :=
  (leaf.key, leaf.text)

end Leaf

namespace Value

/-- The text of a scalar: strings as they are, and other scalars in JSON form. -/
def scalarText? : Value → Option String
  | .string value => some value
  | .bool value => some (Value.text (.bool value))
  | .number value => some (Value.text (.number value))
  | .null | .array _ | .object _ => none

inductive HasLeaf : Value → Leaf → Prop where
  | here {value : Value} {text : String} (scalar : value.scalarText? = some text) :
      HasLeaf value ⟨[], text⟩
  | item {items : List Value} {position : Nat} {item : Value} {path : List Step} {text : String}
      (placed : items[position]? = some item) (inside : item.HasLeaf ⟨path, text⟩) :
      HasLeaf (.array items) ⟨.position position :: path, text⟩
  | member {members : List (String × Value)} {key : String} {value : Value} {path : List Step}
      {text : String} (listed : (key, value) ∈ members) (inside : value.HasLeaf ⟨path, text⟩) :
      HasLeaf (.object members) ⟨.key key :: path, text⟩

/-- A value is a part of another one, at any depth. -/
inductive Inside (part : Value) : Value → Prop where
  | self : Inside part part
  | item {items : List Value} {item : Value} (listed : item ∈ items) (inside : Inside part item) :
      Inside part (.array items)
  | member {members : List (String × Value)} {key : String} {value : Value}
      (listed : (key, value) ∈ members) (inside : Inside part value) :
      Inside part (.object members)

/-- The members of every object are listed with ascending keys. -/
def KeysAscend (value : Value) : Prop :=
  ∀ members, Inside (.object members) value → Keyed.Ascending members

def HasKey (value : Value) (key : String) : Prop :=
  ∃ members held, Inside (.object members) value ∧ (key, held) ∈ members

/-- No key of any object has a point in it. -/
def PointFree (value : Value) : Prop :=
  ∀ key, value.HasKey key → '.' ∉ key.toList

section Parts

variable {items : List Value} {members : List (String × Value)} {key : String} {value item : Value}

theorem KeysAscend.of_item (ascend : (Value.array items).KeysAscend) (listed : item ∈ items) :
    item.KeysAscend :=
  fun _ inside => ascend _ (.item listed inside)

theorem KeysAscend.of_member (ascend : (Value.object members).KeysAscend)
    (listed : (key, value) ∈ members) : value.KeysAscend :=
  fun _ inside => ascend _ (.member listed inside)

theorem KeysAscend.top (ascend : (Value.object members).KeysAscend) : Keyed.Ascending members :=
  ascend members .self

theorem keysAscend_null : KeysAscend .null := fun _ => nofun

theorem keysAscend_bool (value : Bool) : KeysAscend (.bool value) := fun _ => nofun

theorem keysAscend_number (value : Number) : KeysAscend (.number value) := fun _ => nofun

theorem keysAscend_string (value : String) : KeysAscend (.string value) := fun _ => nofun

theorem keysAscend_array_iff :
    (Value.array items).KeysAscend ↔ ∀ item ∈ items, item.KeysAscend := by
  constructor
  · exact fun ascend _ listed => ascend.of_item listed
  · rintro each members (_ | ⟨listed, inside⟩)
    exact each _ listed members inside

theorem keysAscend_object_iff :
    (Value.object members).KeysAscend ↔
      Keyed.Ascending members ∧ ∀ member ∈ members, member.2.KeysAscend := by
  constructor
  · exact fun ascend => ⟨ascend.top, fun _ listed => ascend.of_member listed⟩
  · rintro ⟨top, each⟩ others (_ | _ | ⟨listed, inside⟩)
    · exact top
    · exact each _ listed others inside

theorem PointFree.of_item (free : (Value.array items).PointFree) (listed : item ∈ items) :
    item.PointFree :=
  fun key ⟨members, held, inside, among⟩ => free key ⟨members, held, .item listed inside, among⟩

theorem PointFree.of_member (free : (Value.object members).PointFree)
    (listed : (key, value) ∈ members) : value.PointFree :=
  fun key ⟨members, held, inside, among⟩ => free key ⟨members, held, .member listed inside, among⟩

theorem PointFree.of_key (free : (Value.object members).PointFree)
    (listed : (key, value) ∈ members) : '.' ∉ key.toList :=
  free key ⟨members, value, .self, listed⟩

end Parts

/-- Induction over a value and everything in it. -/
theorem inductionOn {motive : Value → Prop} (null : motive .null)
    (bool : ∀ value, motive (.bool value)) (number : ∀ value, motive (.number value))
    (string : ∀ value, motive (.string value))
    (array : ∀ items, (∀ item ∈ items, motive item) → motive (.array items))
    (object : ∀ members, (∀ member ∈ members, motive member.2) → motive (.object members))
    (value : Value) : motive value :=
  @Value.rec motive (fun items => ∀ item ∈ items, motive item)
    (fun members => ∀ member ∈ members, motive member.2) (fun member => motive member.2)
    null bool number string array object (by simp) (by simp_all) (by simp) (by simp_all)
    (fun _ _ held => held) value

end Value

/-! ## The leaves in the order of the walk -/

mutual

def Value.leaves : Value → List Leaf
  | .null => []
  | .bool value => [⟨[], Value.text (.bool value)⟩]
  | .number value => [⟨[], Value.text (.number value)⟩]
  | .string value => [⟨[], value⟩]
  | .array items => itemLeaves 0 items
  | .object members => memberLeaves members

def itemLeaves (position : Nat) : List Value → List Leaf
  | [] => []
  | item :: rest =>
    item.leaves.map (Leaf.under (.position position)) ++ itemLeaves (position + 1) rest

def memberLeaves : List (String × Value) → List Leaf
  | [] => []
  | (key, value) :: rest => value.leaves.map (Leaf.under (.key key)) ++ memberLeaves rest

end

theorem itemLeaves_eq (start : Nat) (items : List Value) :
    itemLeaves start items = (items.zipIdx start).flatMap fun (item, position) =>
      item.leaves.map (Leaf.under (.position position)) := by
  induction items generalizing start with
  | nil => rfl
  | cons item rest ih => rw [itemLeaves, ih]; rfl

theorem memberLeaves_eq (members : List (String × Value)) :
    memberLeaves members = members.flatMap fun (key, value) =>
      value.leaves.map (Leaf.under (.key key)) := by
  induction members with
  | nil => rfl
  | cons member rest ih => rw [memberLeaves, ih]; rfl

section Walk

variable {value : Value} {leaf other : Leaf}

theorem mem_leaves_of_hasLeaf (has : value.HasLeaf leaf) : leaf ∈ value.leaves := by
  induction has with
  | @here value text scalar =>
    cases value <;> simp_all [Value.scalarText?, Value.leaves]
  | item placed _ ih =>
    rw [Value.leaves, itemLeaves_eq, List.mem_flatMap]
    exact ⟨_, List.mk_mem_zipIdx_iff_getElem?.mpr placed, List.mem_map_of_mem ih⟩
  | member listed _ ih =>
    rw [Value.leaves, memberLeaves_eq, List.mem_flatMap]
    exact ⟨_, listed, List.mem_map_of_mem ih⟩

theorem hasLeaf_of_mem_leaves (listed : leaf ∈ value.leaves) : value.HasLeaf leaf := by
  induction value using Value.inductionOn generalizing leaf with
  | null => simp [Value.leaves] at listed
  | bool | number | string =>
    simp only [Value.leaves, List.mem_singleton] at listed
    exact listed ▸ .here rfl
  | array items ih =>
    rw [Value.leaves, itemLeaves_eq, List.mem_flatMap] at listed
    obtain ⟨⟨item, position⟩, placed, listed⟩ := listed
    obtain ⟨leaf, inner, rfl⟩ := List.mem_map.mp listed
    have found := List.mk_mem_zipIdx_iff_getElem?.mp placed
    exact .item found (ih item (List.mem_of_getElem? found) inner)
  | object members ih =>
    rw [Value.leaves, memberLeaves_eq, List.mem_flatMap] at listed
    obtain ⟨⟨key, value⟩, among, listed⟩ := listed
    obtain ⟨leaf, inner, rfl⟩ := List.mem_map.mp listed
    exact .member among (ih _ among inner)

theorem mem_leaves_iff : leaf ∈ value.leaves ↔ value.HasLeaf leaf :=
  ⟨hasLeaf_of_mem_leaves, mem_leaves_of_hasLeaf⟩

theorem leaves_ordered (ascend : value.KeysAscend) : value.leaves.Pairwise Leaf.Before := by
  induction value using Value.inductionOn with
  | null => exact .nil
  | bool | number | string => exact List.pairwise_singleton _ _
  | array items ih =>
    rw [Value.leaves, itemLeaves_eq, List.pairwise_flatMap]
    constructor
    · rintro ⟨item, position⟩ placed
      have listed := List.mem_of_getElem? (List.mk_mem_zipIdx_iff_getElem?.mp placed)
      exact List.pairwise_map.mpr ((ih item listed (ascend.of_item listed)).imp .cons)
    · refine (Bag.zipIdx_ascending 0 items).imp ?_
      rintro ⟨item, position⟩ ⟨other, later⟩ less first inFirst second inSecond
      obtain ⟨_, _, rfl⟩ := List.mem_map.mp inFirst
      obtain ⟨_, _, rfl⟩ := List.mem_map.mp inSecond
      exact .rel (.position less)
  | object members ih =>
    rw [Value.leaves, memberLeaves_eq, List.pairwise_flatMap]
    constructor
    · rintro ⟨key, value⟩ listed
      exact List.pairwise_map.mpr ((ih _ listed (ascend.of_member listed)).imp .cons)
    · refine ascend.top.imp ?_
      rintro ⟨key, value⟩ ⟨other, later⟩ less first inFirst second inSecond
      obtain ⟨_, _, rfl⟩ := List.mem_map.mp inFirst
      obtain ⟨_, _, rfl⟩ := List.mem_map.mp inSecond
      exact .rel (.key less)

end Walk

/-! ## The pairs of the leaves -/

namespace Leaf

/-- The pair of a leaf of a value that stands under a key. -/
def pairUnder (key : String) (leaf : Leaf) : String × String :=
  (leaf.under (.key key)).pair

theorem pairUnder_root (key text : String) : pairUnder key ⟨[], text⟩ = (key, text) :=
  Prod.ext (String.intercalate_singleton (s := ".")) rfl

theorem pairUnder_under (key : String) (step : Step) (leaf : Leaf) :
    pairUnder key (leaf.under step) = pairUnder (key ++ "." ++ step.text) leaf := by
  refine Prod.ext ?_ rfl
  change Text.joined '.' (key :: step.text :: leaf.path.map Step.text) =
    Text.joined '.' ((key ++ "." ++ step.text) :: leaf.path.map Step.text)
  unfold Text.joined
  rw [String.intercalate_cons_cons]
  cases leaf.path.map Step.text with
  | nil => simp [String.intercalate_singleton, String.append_assoc]
  | cons next rest => simp [String.intercalate_cons_cons, String.append_assoc]

end Leaf

mutual

theorem Value.pairs_eq_leaves (key : String) :
    ∀ value : Value, value.pairs key = value.leaves.map (Leaf.pairUnder key)
  | .null => rfl
  | .bool _ | .string _ => by
    rw [Value.pairs, Value.leaves, List.map_singleton, Leaf.pairUnder_root]
  | .number _ => by
    rw [Value.pairs, Value.leaves, List.map_singleton, Leaf.pairUnder_root, Value.text]
  | .array items => by
    rw [Value.pairs, Value.leaves]
    exact itemPairs_eq_leaves key 0 items
  | .object members => by
    rw [Value.pairs, Value.leaves]
    exact memberPairs_eq_leaves key members

theorem itemPairs_eq_leaves (key : String) :
    ∀ (position : Nat) (items : List Value),
      itemPairs key position items = (itemLeaves position items).map (Leaf.pairUnder key)
  | _, [] => rfl
  | position, item :: rest => by
    have under : Leaf.pairUnder key ∘ Leaf.under (.position position) =
        Leaf.pairUnder (key ++ "." ++ toString position) :=
      funext (Leaf.pairUnder_under key (.position position))
    rw [itemPairs, itemLeaves, item.pairs_eq_leaves, itemPairs_eq_leaves key (position + 1) rest,
      List.map_append, List.map_map, under]

theorem memberPairs_eq_leaves (key : String) :
    ∀ members : List (String × Value),
      memberPairs key members = (memberLeaves members).map (Leaf.pairUnder key)
  | [] => rfl
  | (child, value) :: rest => by
    have under : Leaf.pairUnder key ∘ Leaf.under (.key child) =
        Leaf.pairUnder (key ++ "." ++ child) :=
      funext (Leaf.pairUnder_under key (.key child))
    rw [memberPairs, memberLeaves, value.pairs_eq_leaves, memberPairs_eq_leaves key rest,
      List.map_append, List.map_map, under]

end

theorem topPairs_eq_leaves (members : List (String × Value)) :
    topPairs members = (Value.object members).leaves.map Leaf.pair := by
  rw [Value.leaves, memberLeaves_eq, topPairs, List.map_flatMap]
  congr 1
  funext ⟨key, value⟩
  simp only [value.pairs_eq_leaves, List.map_map]
  rfl

/-! ## Leaves that are told apart -/

section Distinct

variable {value : Value} {members : List (String × Value)} {leaf other : Leaf}

theorem eq_of_ascending {α : Type} {entries : List (String × α)} {key : String} {first second : α}
    (ascending : Keyed.Ascending entries) (listed : (key, first) ∈ entries)
    (also : (key, second) ∈ entries) : first = second := by
  induction entries with
  | nil => cases listed
  | cons entry rest ih =>
    obtain ⟨above, tail⟩ := List.pairwise_cons.mp ascending
    rcases List.mem_cons.mp listed with rfl | later
    · rcases List.mem_cons.mp also with same | after
      · exact (Prod.mk.inj same).2.symm
      · exact absurd (above _ after) (String.lt_irrefl key)
    · rcases List.mem_cons.mp also with rfl | after
      · exact absurd (above _ later) (String.lt_irrefl key)
      · exact ih tail later after

/-- The texts of the steps tell leaves of one value apart, although a key may look like a
position. -/
theorem hasLeaf_unique (ascend : value.KeysAscend) (first : value.HasLeaf leaf)
    (second : value.HasLeaf other) (same : leaf.path.map Step.text = other.path.map Step.text) :
    leaf = other := by
  induction first generalizing other with
  | here scalar =>
    cases second with
    | here scalar' => rw [Option.some.inj (scalar.symm.trans scalar')]
    | item => cases same
    | member => cases same
  | item placed inside ih =>
    cases second with
    | here scalar => cases scalar
    | item placed' inside' =>
      obtain ⟨position, rest⟩ := List.cons.inj same
      obtain rfl := Text.toString_inj.mp position
      obtain rfl := Option.some.inj (placed.symm.trans placed')
      have inner := ih (ascend.of_item (List.mem_of_getElem? placed)) inside' rest
      exact congrArg (Leaf.under (.position _)) inner
  | member listed inside ih =>
    cases second with
    | here scalar => cases scalar
    | member listed' inside' =>
      obtain ⟨key, rest⟩ := List.cons.inj same
      obtain rfl : _ = _ := key
      obtain rfl := eq_of_ascending ascend.top listed listed'
      have inner := ih (ascend.of_member listed) inside' rest
      exact congrArg (Leaf.under (.key _)) inner

theorem not_mem_step (free : value.PointFree) (has : value.HasLeaf leaf) :
    ∀ text ∈ leaf.path.map Step.text, '.' ∉ text.toList := by
  induction has with
  | here => simp
  | item placed _ ih =>
    refine List.forall_mem_cons.mpr ⟨?_, ih (free.of_item (List.mem_of_getElem? placed))⟩
    exact Text.not_mem_toString (by decide)
  | member listed _ ih =>
    exact List.forall_mem_cons.mpr ⟨free.of_key listed, ih (free.of_member listed)⟩

theorem path_ne_nil (has : (Value.object members).HasLeaf leaf) : leaf.path ≠ [] := by
  cases has with
  | here scalar => cases scalar
  | member => exact List.cons_ne_nil _ _

/-- Cutting a key at its points gives the steps of the path back. -/
theorem pieces_key (free : (Value.object members).PointFree)
    (has : (Value.object members).HasLeaf leaf) :
    Text.pieces '.' leaf.key = leaf.path.map Step.text :=
  Text.pieces_joined (by simpa using path_ne_nil has) (not_mem_step free has)

theorem hasLeaf_distinct (ascend : (Value.object members).KeysAscend)
    (free : (Value.object members).PointFree) (first : (Value.object members).HasLeaf leaf)
    (second : (Value.object members).HasLeaf other) (same : leaf.key = other.key) :
    leaf = other := by
  refine hasLeaf_unique ascend first second ?_
  rw [← pieces_key free first, ← pieces_key free second, same]

end Distinct

/-! ## The bag of the leaves -/

section Bags

variable {members : List (String × Value)} {leaves : List Leaf} {leaf : Leaf} {key text : String}

/-- Of the leaves with one key the last one counts. -/
theorem get?_ofList_leaves (ordered : leaves.Pairwise Leaf.Before) :
    (Bag.ofList (leaves.map Leaf.pair)).get? key = some text ↔
      ∃ leaf ∈ leaves, leaf.key = key ∧ leaf.text = text ∧
        ∀ other ∈ leaves, other.key = key → other = leaf ∨ other.Before leaf := by
  rw [Bag.get?_ofList_eq_some_iff]
  constructor
  · rintro ⟨before, after, listed, later⟩
    obtain ⟨front, back, rfl, -, same⟩ := List.map_eq_append_iff.mp listed
    obtain ⟨leaf, tail, rfl, pair, rfl⟩ := List.map_eq_cons_iff.mp same
    obtain ⟨sameKey, sameText⟩ := Prod.mk.inj pair
    refine ⟨leaf, by simp, sameKey, sameText, ?_⟩
    intro other among otherKey
    rcases List.mem_append.mp among with early | late
    · exact .inr ((List.pairwise_append.mp ordered).2.2 other early leaf List.mem_cons_self)
    · rcases List.mem_cons.mp late with rfl | late
      · exact .inl rfl
      · exact absurd otherKey (later _ (List.mem_map_of_mem late))
  · rintro ⟨leaf, among, rfl, rfl, last⟩
    obtain ⟨front, back, rfl⟩ := List.mem_iff_append.mp among
    refine ⟨front.map Leaf.pair, back.map Leaf.pair, by simp [Leaf.pair], ?_⟩
    intro pair later sameKey
    obtain ⟨other, late, rfl⟩ := List.mem_map.mp later
    have after : leaf.Before other :=
      (List.pairwise_cons.mp (List.pairwise_append.mp ordered).2.1).1 other late
    rcases last other (by simp [late]) sameKey with rfl | before
    · exact after.asymm after
    · exact after.asymm before

theorem mem_keys_ofList_leaves :
    key ∈ (Bag.ofList (leaves.map Leaf.pair)).keys ↔ ∃ leaf ∈ leaves, leaf.key = key := by
  rw [Bag.mem_keys_ofList_iff]
  simp [Leaf.pair]

theorem nodup_of_ordered (ordered : leaves.Pairwise Leaf.Before) : leaves.Nodup := by
  refine ordered.imp ?_
  rintro first second before rfl
  exact before.asymm before

/-- Leaves with different keys have one pair each in their bag. -/
theorem toList_ofList_leaves_perm (ordered : leaves.Pairwise Leaf.Before)
    (distinct : ∀ leaf ∈ leaves, ∀ other ∈ leaves, leaf.key = other.key → leaf = other) :
    (Bag.ofList (leaves.map Leaf.pair)).toList.Perm (leaves.map Leaf.pair) := by
  refine Bag.toList_ofList_perm ?_
  rw [List.map_map]
  refine (nodup_of_ordered ordered).map_on ?_
  intro leaf among other also same
  exact distinct leaf among other also same

end Bags

/-- What a bag has of the leaves of an object. -/
structure FlattensLeaves (members : List (String × Value)) (bag : Bag) : Prop where
  keys (key : String) :
    key ∈ bag.keys ↔ ∃ leaf, (Value.object members).HasLeaf leaf ∧ leaf.key = key
  last (key text : String) : bag.get? key = some text ↔
    ∃ leaf, (Value.object members).HasLeaf leaf ∧ leaf.key = key ∧ leaf.text = text ∧
      ∀ other, (Value.object members).HasLeaf other → other.key = key →
        other = leaf ∨ other.Before leaf
  -- what has no leaves, as nulls and empty objects and arrays, may come and go
  blanks (others : List (String × Value)) : (Value.object others).KeysAscend →
    (∀ leaf, (Value.object others).HasLeaf leaf ↔ (Value.object members).HasLeaf leaf) →
      Bag.ofJson (.object others) = .ok bag
  distinct : (Value.object members).PointFree → ∀ leaf other : Leaf,
    (Value.object members).HasLeaf leaf → (Value.object members).HasLeaf other →
      leaf.key = other.key → leaf = other
  counted : (Value.object members).PointFree → ∃ leaves : List Leaf, leaves.Nodup ∧
    (∀ leaf, leaf ∈ leaves ↔ (Value.object members).HasLeaf leaf) ∧
      bag.toList.Perm (leaves.map Leaf.pair)

theorem ofJson_eq_leaves (members : List (String × Value)) :
    Bag.ofJson (.object members) =
      .ok (Bag.ofList ((Value.object members).leaves.map Leaf.pair)) := by
  rw [Bag.ofJson, topPairs_eq_leaves]

/-- The bag of an object has the keys of its leaves, each with the last leaf in the order
of the walk, and nothing of what has no leaves. Without points in the keys every leaf has
an entry of its own. -/
theorem flattensLeaves {members : List (String × Value)}
    (ascend : (Value.object members).KeysAscend) :
    ∃ bag, Bag.ofJson (.object members) = .ok bag ∧ FlattensLeaves members bag := by
  have ordered := leaves_ordered ascend
  refine ⟨_, ofJson_eq_leaves members, ?_⟩
  constructor
  case keys => simp only [mem_keys_ofList_leaves, mem_leaves_iff, implies_true]
  case last =>
    intro key text
    simp only [get?_ofList_leaves ordered, mem_leaves_iff]
  case blanks =>
    intro others othersAscend same
    rw [ofJson_eq_leaves, Except.ok.injEq]
    apply Bag.ext
    intro key
    apply Option.ext
    intro text
    rw [get?_ofList_leaves ordered, get?_ofList_leaves (leaves_ordered othersAscend)]
    simp only [mem_leaves_iff, same]
  case distinct =>
    intro free leaf other first second same
    exact hasLeaf_distinct ascend free first second same
  case counted =>
    intro free
    refine ⟨_, nodup_of_ordered ordered, fun _ => mem_leaves_iff, ?_⟩
    refine toList_ofList_leaves_perm ordered ?_
    intro leaf among other also same
    exact hasLeaf_distinct ascend free (mem_leaves_iff.mp among) (mem_leaves_iff.mp also) same

/-- Two paths meet in the key `a.b`. The later null leaves the item in the list alone. -/
def meetingPaths : List (String × Value) :=
  [("", .object [("", .string "quay")]),
    ("a", .object [("", .null), ("b", .string "first"), ("list", .array [.null, .bool true])]),
    ("a.b", .number (.integer 2)), ("a.list", .object [("0", .array []), ("1", .null)])]

theorem flattensLeaves_meetingPaths :
    (Value.object meetingPaths).KeysAscend ∧
      ∃ bag, Bag.ofJson (.object meetingPaths) = .ok bag ∧ FlattensLeaves meetingPaths bag ∧
        bag.toList = [(".", "quay"), ("a.b", "2"), ("a.list.1", "true")] := by
  have ascend : (Value.object meetingPaths).KeysAscend := by
    simp only [meetingPaths, Value.keysAscend_object_iff, Value.keysAscend_array_iff,
      List.forall_mem_cons, List.not_mem_nil, false_imp_iff, implies_true, and_true, true_and,
      Value.keysAscend_null, Value.keysAscend_bool, Value.keysAscend_number,
      Value.keysAscend_string]
    unfold Keyed.Ascending
    decide
  obtain ⟨bag, read, flattens⟩ := flattensLeaves ascend
  refine ⟨ascend, bag, read, flattens, ?_⟩
  cases read
  decide +kernel

end Provision.Json

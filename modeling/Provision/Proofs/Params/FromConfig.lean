import Provision.Params.Basic
import Provision.Proofs.Configuration.Walk

/-! A configuration whose only member is an array of objects, under the plural section of
a kind, gives the bags of these objects, in the order of the array and each of them whole.
An object that puts nothing into a bag is left out. -/

set_option autoImplicit false

namespace Provision.Params

variable {kind : ParamsKind} {rows : List (List (String × String))}

/-- Numbered rows in the plural section of a kind give the bags of the rows with pairs. -/
theorem manyFromConfig_numbered (fits : rows.length ≤ Word.count 64) :
    manyFromConfig kind
        (Bag.ofList ((Bag.numbered 0 rows).map (Bag.inSection kind.manySection))) =
      ((rows.map Bag.ofList).filter fun bag => !bag.isEmpty).map .mk := by
  have many : (Bag.ofList ((Bag.numbered 0 rows).map (Bag.inSection kind.manySection))).sectionAt
      kind.manySection = Bag.ofList (Bag.numbered 0 rows) := by
    rw [Bag.sectionAt_ofList, Bag.sectionPairs_map_inSection]
  rw [← Bag.map_sectionAt_numbered fits, List.map_map]
  simp only [manyFromConfig, many]
  split
  next blank =>
    -- nothing is in the plural section, and nothing is beside it
    have none : Bag.numbered 0 rows = [] := Bag.isEmpty_ofList_iff.mp blank
    have bare : Bag.ofList [] = Bag.empty := rfl
    simp [none, bare, Bag.isEmpty_iff]
  next => rfl

/-- A configured array keeps the order and the content of its objects. No array has more
items than there are positions of 64 bits. -/
theorem manyFromConfig_array (kind : ParamsKind) (objects : List (List (String × Json.Value)))
    (fits : objects.length ≤ Word.count 64) :
    ∃ config bags,
      Bag.ofJson (.object [(kind.manySection, .array (objects.map .object))]) = .ok config ∧
      objects.mapM (fun members => Bag.ofJson (.object members)) = .ok bags ∧
      manyFromConfig kind config = (bags.filter fun bag => !bag.isEmpty).map .mk ∧
      ∀ members, Bag.ofJson (.object members) = .ok .empty ↔
        ¬ (Json.Value.object members).HasScalar := by
  refine ⟨Bag.ofList ((Bag.numbered 0 (objects.map Json.topPairs)).map
    (Bag.inSection kind.manySection)), (objects.map Json.topPairs).map Bag.ofList, ?config, ?bags,
    manyFromConfig_numbered (by simpa using fits), ?scalars⟩
  case config =>
    have placed := Json.itemPairs_objects kind.manySection 0 objects
    simp only [Bag.ofJson, Json.topPairs, List.flatMap_singleton, Json.Value.pairs]
    rw [placed]
  case bags =>
    rw [List.map_map]
    exact List.mapM_pure
  case scalars =>
    intro members
    rw [← Json.topPairs_eq_nil_iff, ← Bag.isEmpty_ofList_iff, Bag.isEmpty_iff, Bag.ofJson,
      Except.ok.injEq]

/-- The objects of a configuration in which every second one of twelve has no host. -/
def halfOfTwelve : List (List (String × Json.Value)) :=
  (List.range 12).map fun position =>
    [("host", if position % 2 = 0 then .string (toString position) else .null)]

theorem manyFromConfig_halfOfTwelve :
    halfOfTwelve.length ≤ Word.count 64 ∧
      ∃ config,
        Bag.ofJson (.object [("connections", .array (halfOfTwelve.map .object))]) = .ok config ∧
        (manyFromConfig .connection config).map (·.bag.get? "host") =
          [some "0", some "2", some "4", some "6", some "8", some "10"] := by
  have fits : halfOfTwelve.length ≤ Word.count 64 := by decide
  obtain ⟨config, bags, read, each, many, -⟩ := manyFromConfig_array .connection halfOfTwelve fits
  refine ⟨fits, config, read, ?_⟩
  cases each
  rw [many]
  rfl

end Provision.Params

import Provision.Params.Basic
import Provision.Proofs.Bag.Section

/-! Which bags of a kind a configuration gives. The subsections of the plural section count,
and where it has none the singular section may. It is not the subsections that decide this
but the keys: a plural section that has keys and no subsections gives nothing, and the
singular section goes unread. -/

set_option autoImplicit false

namespace Provision.Params

/-- The plural section of a kind has a subsection of a name. -/
structure HasSubsection (kind : ParamsKind) (config : Bag) (name : String) : Prop where
  proper : Bag.IsSectionName name
  keyed : config.HasKeyUnder (kind.manySection ++ "." ++ name)

def subsectionNames (kind : ParamsKind) (config : Bag) : List String :=
  (config.sectionAt kind.manySection).sectionNames

/-- The bags of the subsections, in the order of their names. -/
def ofSubsections (kind : ParamsKind) (config : Bag) : List (Params kind) :=
  (subsectionNames kind config).map fun name =>
    ⟨(config.sectionAt kind.manySection).sectionAt name⟩

/-- The singular section, unless it is empty. -/
def ofSingleSection (kind : ParamsKind) (config : Bag) : List (Params kind) :=
  let single := config.sectionAt kind.singleSection
  if single.isEmpty then [] else [⟨single⟩]

variable {kind : ParamsKind} {config : Bag} {name : String}

theorem mem_subsectionNames_iff :
    name ∈ subsectionNames kind config ↔ HasSubsection kind config name := by
  rw [subsectionNames, Bag.mem_sectionNames_iff_hasSection]
  constructor
  · rintro ⟨proper, keyed⟩
    exact ⟨proper, Bag.hasKeyUnder_sectionAt.mp keyed⟩
  · rintro ⟨proper, keyed⟩
    exact ⟨proper, Bag.hasKeyUnder_sectionAt.mpr keyed⟩

theorem HasSubsection.hasKeyUnder (has : HasSubsection kind config name) :
    config.HasKeyUnder kind.manySection := by
  obtain ⟨rest, held⟩ := Bag.hasKeyUnder_sectionAt.mpr has.keyed
  exact ⟨_, Bag.mem_keys_sectionAt.mp held⟩

theorem manyFromConfig_of_key (keyed : config.HasKeyUnder kind.manySection) :
    manyFromConfig kind config = ofSubsections kind config := by
  have present : ¬ (config.sectionAt kind.manySection).isEmpty = true := fun blank =>
    Bag.isEmpty_sectionAt.mp blank keyed
  simp only [manyFromConfig, if_neg present, ofSubsections, subsectionNames]

theorem manyFromConfig_of_no_key (keyless : ¬ config.HasKeyUnder kind.manySection) :
    manyFromConfig kind config = ofSingleSection kind config := by
  simp only [manyFromConfig, if_pos (Bag.isEmpty_sectionAt.mpr keyless), ofSingleSection]

theorem ofSubsections_eq_nil_iff :
    ofSubsections kind config = [] ↔ ¬ ∃ name, HasSubsection kind config name := by
  rw [ofSubsections, List.map_eq_nil_iff, List.eq_nil_iff_forall_not_mem]
  simp only [mem_subsectionNames_iff, not_exists]

theorem ofSingleSection_eq_nil_iff :
    ofSingleSection kind config = [] ↔ ¬ config.HasKeyUnder kind.singleSection := by
  simp only [ofSingleSection]
  rw [← Bag.isEmpty_sectionAt]
  split
  next blank => simp [blank]
  next present => simp [present]

/-- Each subsection gives the bag of its keys, without the two names before them. -/
theorem ofSubsections_forall₂ :
    List.Forall₂ (fun name params => ∀ key, params.bag.get? key =
        config.get? (kind.manySection ++ "." ++ (name ++ "." ++ key)))
      (subsectionNames kind config) (ofSubsections kind config) := by
  simp only [ofSubsections, List.forall₂_map_right_iff, List.forall₂_same]
  intro name _ key
  rw [Bag.get?_sectionAt, Bag.get?_sectionAt]

/-- The bags of the subsections, and without any the bag of the singular section. -/
def subsectionsOrSingle (kind : ParamsKind) (config : Bag) : List (Params kind) :=
  if ofSubsections kind config = [] then ofSingleSection kind config
  else ofSubsections kind config

theorem manyFromConfig_ne_iff :
    manyFromConfig kind config ≠ subsectionsOrSingle kind config ↔
      config.HasKeyUnder kind.manySection ∧ (¬ ∃ name, HasSubsection kind config name) ∧
        config.HasKeyUnder kind.singleSection := by
  unfold subsectionsOrSingle
  by_cases keyed : config.HasKeyUnder kind.manySection
  · rw [manyFromConfig_of_key keyed]
    by_cases none : ofSubsections kind config = []
    · have bare := ofSubsections_eq_nil_iff.mp none
      rw [if_pos none, none, ne_comm, ne_eq, ofSingleSection_eq_nil_iff, Classical.not_not]
      exact ⟨fun single => ⟨keyed, bare, single⟩, fun all => all.2.2⟩
    · have some := mt ofSubsections_eq_nil_iff.mpr none
      rw [if_neg none]
      exact ⟨fun differs => absurd rfl differs, fun all => absurd all.2.1 some⟩
  · have none : ofSubsections kind config = [] :=
      ofSubsections_eq_nil_iff.mpr fun ⟨_, has⟩ => keyed has.hasKeyUnder
    rw [manyFromConfig_of_no_key keyed, if_pos none]
    exact ⟨fun differs => absurd rfl differs, fun all => absurd all.1 keyed⟩

/-- What a configuration gives, and when it is not what its subsections call for. -/
structure ReadsSections (kind : ParamsKind) (config : Bag) : Prop where
  names (name : String) : name ∈ subsectionNames kind config ↔ HasSubsection kind config name
  once : (subsectionNames kind config).Nodup
  ordered : (subsectionNames kind config).Pairwise fun a b => Bag.namePrecedes a b = true
  subsections : (∃ name, HasSubsection kind config name) →
    List.Forall₂ (fun name params => ∀ key, params.bag.get? key =
        config.get? (kind.manySection ++ "." ++ (name ++ "." ++ key)))
      (subsectionNames kind config) (manyFromConfig kind config)
  single : ¬ config.HasKeyUnder kind.manySection → config.HasKeyUnder kind.singleSection →
    ∃ params, manyFromConfig kind config = [params] ∧
      ∀ key, params.bag.get? key = config.get? (kind.singleSection ++ "." ++ key)
  neither : ¬ config.HasKeyUnder kind.manySection → ¬ config.HasKeyUnder kind.singleSection →
    manyFromConfig kind config = []
  bare : config.HasKeyUnder kind.manySection → (¬ ∃ name, HasSubsection kind config name) →
    manyFromConfig kind config = []
  differs : manyFromConfig kind config ≠ subsectionsOrSingle kind config ↔
    config.HasKeyUnder kind.manySection ∧ (¬ ∃ name, HasSubsection kind config name) ∧
      config.HasKeyUnder kind.singleSection

/-- Subsections come first. The singular section counts if the plural one has no key at
all, so a key that belongs to no subsection keeps it from being read. -/
theorem readsSections (kind : ParamsKind) (config : Bag) : ReadsSections kind config := by
  constructor
  case names => exact fun _ => mem_subsectionNames_iff
  case once => exact Bag.nodup_sectionNames _
  case ordered => exact Bag.sectionNames_ordered _
  case subsections =>
    rintro ⟨name, has⟩
    rw [manyFromConfig_of_key has.hasKeyUnder]
    exact ofSubsections_forall₂
  case single =>
    intro keyless keyed
    refine ⟨⟨config.sectionAt kind.singleSection⟩, ?_, Bag.get?_sectionAt config _⟩
    have present : ¬ (config.sectionAt kind.singleSection).isEmpty = true := fun blank =>
      Bag.isEmpty_sectionAt.mp blank keyed
    simp only [manyFromConfig_of_no_key keyless, ofSingleSection, if_neg present]
  case neither =>
    intro keyless bare
    rw [manyFromConfig_of_no_key keyless, ofSingleSection_eq_nil_iff.mpr bare]
  case bare =>
    intro keyed none
    rw [manyFromConfig_of_key keyed, ofSubsections_eq_nil_iff.mpr none]
  case differs => exact manyFromConfig_ne_iff

/-- A plural section with a key of its own beside a singular section. -/
def strayKey : Bag := .ofList [("connection.host", "b"), ("connections.host", "a")]

/-- There is no subsection, and still the singular section is not given. -/
theorem strayKey_drops_single :
    (¬ ∃ name, HasSubsection .connection strayKey name) ∧ strayKey.HasKeyUnder "connection" ∧
      manyFromConfig .connection strayKey = [] ∧ fromConfig? .connection strayKey = none ∧
      subsectionsOrSingle .connection strayKey = [⟨.ofList [("host", "b")]⟩] := by
  refine ⟨?_, ⟨"host", by decide +kernel⟩, by decide +kernel, by decide +kernel,
    by decide +kernel⟩
  rw [← ofSubsections_eq_nil_iff]
  decide +kernel

end Provision.Params

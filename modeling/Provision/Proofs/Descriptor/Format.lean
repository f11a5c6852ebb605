import Provision.Descriptor
import Provision.Proofs.Text.Pieces

/-! The text of a descriptor. A text is read exactly if it has four colons, and what is
read has that very text. A colon inside a field adds to the four between the fields, so
the text of such a descriptor is refused; it is never taken for another descriptor. -/

set_option autoImplicit false

namespace Provision.Descriptor

variable {s : String} {descriptor : Descriptor}

theorem ofFields?_eq_some_iff {parts : List String} :
    ofFields? parts = some descriptor ↔ parts = descriptor.fields := by
  constructor
  · intro filled
    unfold ofFields? at filled
    split at filled
    · cases filled
      rfl
    · cases filled
  · intro same
    subst same
    rfl

theorem exists_fields_iff {parts : List String} :
    (∃ descriptor : Descriptor, parts = descriptor.fields) ↔ parts.length = 5 := by
  constructor
  · intro ⟨descriptor, same⟩
    rw [same]
    rfl
  · intro five
    match parts, five with
    | [group, capability, kind, name, version], _ =>
      exact ⟨⟨group, capability, kind, name, version⟩, rfl⟩

theorem ofText_eq_ok_iff : ofText s = .ok descriptor ↔ Text.pieces ':' s = descriptor.fields := by
  rw [← ofFields?_eq_some_iff, ofText]
  cases filled : ofFields? (Text.pieces ':' s) with
  | none => simp
  | some found => simp

theorem exists_ofText_iff (s : String) :
    (∃ descriptor, ofText s = .ok descriptor) ↔ s.toList.count ':' = 4 := by
  simp only [ofText_eq_ok_iff, exists_fields_iff, Text.length_pieces]
  omega

theorem ofText_of_count_ne (other : s.toList.count ':' ≠ 4) :
    ofText s = .error (.invalidFormat s) := by
  cases filled : ofFields? (Text.pieces ':' s) with
  | none => simp only [ofText, filled]
  | some descriptor =>
    have read : ofText s = .ok descriptor := by simp only [ofText, filled]
    exact absurd ((exists_ofText_iff s).mp ⟨descriptor, read⟩) other

theorem text_of_ofText (read : ofText s = .ok descriptor) : descriptor.text = s := by
  rw [text, ← ofText_eq_ok_iff.mp read, Text.joined_pieces]

theorem ofText_text (free : ∀ field ∈ descriptor.fields, ':' ∉ field.toList) :
    ofText descriptor.text = .ok descriptor :=
  ofText_eq_ok_iff.mpr (Text.pieces_joined (by simp [fields]) free)

/-- Every colon inside a field is one too many. -/
theorem count_text (descriptor : Descriptor) :
    descriptor.text.toList.count ':' =
      4 + (descriptor.fields.flatMap String.toList).count ':' := by
  simp [text, fields, Text.joined]
  omega

theorem count_text_eq_four_iff :
    descriptor.text.toList.count ':' = 4 ↔ ∀ field ∈ descriptor.fields, ':' ∉ field.toList := by
  rw [count_text, Nat.add_eq_left, List.count_eq_zero]
  simp only [List.mem_flatMap, not_exists, not_and]

/-- Which texts are read, and which descriptors are read back from their texts. -/
structure FormatLaws (s : String) (descriptor : Descriptor) : Prop where
  reads : (∃ found, ofText s = .ok found) ↔ s.toList.count ':' = 4
  writes : ∀ found, ofText s = .ok found → found.text = s
  refuses : (¬ ∃ found, ofText s = .ok found) → ofText s = .error (.invalidFormat s)
  readsBack : ofText descriptor.text = .ok descriptor ↔
    ∀ field ∈ descriptor.fields, ':' ∉ field.toList
  refusesOwn : (∃ field ∈ descriptor.fields, ':' ∈ field.toList) →
    ofText descriptor.text = .error (.invalidFormat descriptor.text)

theorem formatLaws (s : String) (descriptor : Descriptor) : FormatLaws s descriptor := by
  constructor
  case reads => exact exists_ofText_iff s
  case writes => exact fun found read => text_of_ofText read
  case refuses =>
    intro unread
    exact ofText_of_count_ne (mt (exists_ofText_iff s).mpr unread)
  case readsBack =>
    constructor
    · intro read
      exact count_text_eq_four_iff.mp ((exists_ofText_iff _).mp ⟨descriptor, read⟩)
    · exact ofText_text
  case refusesOwn =>
    intro ⟨field, listed, colon⟩
    refine ofText_of_count_ne ?_
    intro four
    exact count_text_eq_four_iff.mp four field listed colon

end Provision.Descriptor

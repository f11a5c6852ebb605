import Provision.Text.Numeral

/-! The decimal numeral of a number consists of digits, is never empty, and is read back
as that number where the number has a place among those of 64 bits. So different numbers
have different numerals. What is read as a number in all is digits with any zeros in
front, and with a plus sign before them or without. -/

set_option autoImplicit false

namespace Provision.Text

variable {n m : Nat}

theorem toList_toString : (toString n).toList = Nat.toDigits 10 n := by
  rw [Nat.toString_eq_ofList_toDigits, String.toList_ofList]

theorem isDigit_of_mem_toString {c : Char} (written : c ∈ (toString n).toList) :
    c.isDigit = true := by
  rw [toList_toString] at written
  exact Nat.isDigit_of_mem_toDigits (by decide) (by decide) written

theorem not_mem_toString {c : Char} (other : c.isDigit = false) : c ∉ (toString n).toList := by
  intro written
  rw [isDigit_of_mem_toString written] at other
  cases other

theorem toString_ne_empty : toString n ≠ "" :=
  Nat.repr_ne_empty

theorem digitsValue?_toString : digitsValue? (toString n).toList = some n := by
  have digits : (toString n).toList.all Char.isDigit = true :=
    List.all_eq_true.mpr fun _ written => isDigit_of_mem_toString written
  have nonempty : (toString n).toList.isEmpty = false := by
    simp [List.isEmpty_eq_false_iff]
  rw [digitsValue?, digits, nonempty, toList_toString, Nat.ofDigitChars_ten_toDigits]
  rfl

theorem toString_inj : toString n = toString m ↔ n = m := by
  constructor
  · intro same
    have read : digitsValue? (toString n).toList = some m := by rw [same, digitsValue?_toString]
    rw [digitsValue?_toString] at read
    exact Option.some.inj read
  · intro same
    rw [same]

theorem unsigned64?_toString (fits : n < Word.count 64) : unsigned64? (toString n) = some n := by
  have unsigned : ∀ rest, (toString n).toList ≠ '+' :: rest := by
    intro rest signed
    exact not_mem_toString (n := n) (c := '+') (by decide) (signed ▸ List.mem_cons_self)
  unfold unsigned64?
  split
  next rest signed => exact absurd signed (unsigned rest)
  next =>
    simp only [digitsValue?_toString]
    exact Option.filter_eq_some_iff.mpr ⟨rfl, Word.fits_iff.mpr fits⟩

/-- A text is read as a number that has a place among those of 64 bits. -/
structure IsNumeral (s : String) (n : Nat) : Prop where
  digits : ∃ cs, (s.toList = cs ∨ s.toList = '+' :: cs) ∧ cs ≠ [] ∧
    (∀ c ∈ cs, c.isDigit = true) ∧ Nat.ofDigitChars 10 cs 0 = n
  fits : n < Word.count 64

theorem digitsValue?_eq_some_iff {cs : List Char} :
    digitsValue? cs = some n ↔
      cs ≠ [] ∧ (∀ c ∈ cs, c.isDigit = true) ∧ Nat.ofDigitChars 10 cs 0 = n := by
  unfold digitsValue?
  split
  next refused =>
    constructor
    · intro read
      cases read
    · rintro ⟨nonempty, digits, -⟩
      simp [nonempty, List.all_eq_true.mpr digits] at refused
  next accepted =>
    simp only [Bool.or_eq_true, List.isEmpty_iff, Bool.not_eq_true', not_or, Bool.not_eq_false,
      List.all_eq_true] at accepted
    obtain ⟨nonempty, digits⟩ := accepted
    constructor
    · intro read
      exact ⟨nonempty, digits, Option.some.inj read⟩
    · rintro ⟨-, -, value⟩
      rw [value]

theorem unsigned64?_eq_some_iff {s : String} : unsigned64? s = some n ↔ IsNumeral s n := by
  unfold unsigned64?
  rw [Option.filter_eq_some_iff, Word.fits_iff]
  split
  next rest signed =>
    constructor
    · rintro ⟨read, fits⟩
      exact ⟨⟨rest, .inr signed, digitsValue?_eq_some_iff.mp read⟩, fits⟩
    · rintro ⟨⟨cs, spelled, nonempty, digits, value⟩, fits⟩
      refine ⟨?_, fits⟩
      rcases spelled with whole | tail
      · have sign : '+'.isDigit = true := digits '+' (by simp [← whole, signed])
        cases sign
      · obtain rfl : rest = cs := (List.cons.inj (signed.symm.trans tail)).2
        exact digitsValue?_eq_some_iff.mpr ⟨nonempty, digits, value⟩
  next unsigned =>
    constructor
    · rintro ⟨read, fits⟩
      exact ⟨⟨s.toList, .inl rfl, digitsValue?_eq_some_iff.mp read⟩, fits⟩
    · rintro ⟨⟨cs, spelled, content⟩, fits⟩
      refine ⟨?_, fits⟩
      rcases spelled with whole | tail
      · exact digitsValue?_eq_some_iff.mpr (whole ▸ content)
      · exact absurd tail (unsigned cs)

theorem unsigned64?_eq_none_iff {s : String} :
    unsigned64? s = none ↔ ∀ n, ¬ IsNumeral s n := by
  simp only [Option.eq_none_iff_forall_ne_some, ne_eq, unsigned64?_eq_some_iff]

end Provision.Text

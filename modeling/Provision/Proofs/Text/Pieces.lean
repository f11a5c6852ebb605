import Mathlib.Data.List.DropRight
import Provision.Text.Blank
import Provision.Text.Cut

/-! Trimming a second time changes nothing, and a trimmed text has no characters but those
of the text it comes from. A cut at the first separator is given by what stands around
that separator, and a cut after an opening by the opening in front. Cutting at every
separator undoes joining when no piece has the separator in it, and the pieces of a text
never do. Joining always undoes cutting, and there is one piece more than separators. -/

set_option autoImplicit false

namespace Provision.Text

section Trimming

variable (cs : List Char) (s : String)

theorem trimmed_eq_rdropWhile : trimmed cs = (cs.dropWhile isBlank).rdropWhile isBlank := rfl

theorem trimmed_subset : trimmed cs ⊆ cs := by
  intro c kept
  have inFront := (List.rdropWhile_prefix isBlank (cs.dropWhile isBlank)).subset kept
  exact List.dropWhile_subset isBlank inFront

theorem dropWhile_trimmed : (trimmed cs).dropWhile isBlank = trimmed cs := by
  obtain ⟨rest, whole⟩ := List.rdropWhile_prefix isBlank (cs.dropWhile isBlank)
  rw [← trimmed_eq_rdropWhile] at whole
  cases kept : trimmed cs with
  | nil => rfl
  | cons c tail =>
    -- the first character that trimming at the end keeps is the one that trimming at the
    -- front stopped at
    have stopped := List.head?_dropWhile_not isBlank cs
    rw [← whole, kept] at stopped
    have solid : isBlank c = false := by simpa using stopped
    exact List.dropWhile_cons_of_neg (by simp [solid])

theorem trimmed_trimmed : trimmed (trimmed cs) = trimmed cs := by
  rw [trimmed_eq_rdropWhile (trimmed cs), dropWhile_trimmed]
  exact List.rdropWhile_idempotent isBlank _

theorem trimmed_eq_nil_iff : trimmed cs = [] ↔ ∀ c ∈ cs, isBlank c = true := by
  rw [trimmed_eq_rdropWhile, List.rdropWhile_eq_nil_iff]
  constructor
  · intro blank
    have front : cs.dropWhile isBlank = [] := by
      rw [← List.dropWhile_idempotent, List.dropWhile_eq_nil_iff]
      exact blank
    exact List.dropWhile_eq_nil_iff.mp front
  · intro blank c kept
    exact blank c (List.dropWhile_subset isBlank kept)

@[simp] theorem trim_trim : trim (trim s) = trim s := by
  simp [trim, trimmed_trimmed]

@[simp] theorem trim_empty : trim "" = "" := rfl

theorem trim_eq_empty_iff : trim s = "" ↔ ∀ c ∈ s.toList, isBlank c = true := by
  rw [← trimmed_eq_nil_iff, trim, ← String.toList_inj, String.toList_ofList]
  rfl

theorem trim_ne_empty_iff : trim s ≠ "" ↔ ∃ c ∈ s.toList, isBlank c = false := by
  rw [ne_eq, trim_eq_empty_iff]
  simp

variable {s} in
theorem not_mem_trim {c : Char} (absent : c ∉ s.toList) : c ∉ (trim s).toList := by
  intro kept
  rw [trim, String.toList_ofList] at kept
  exact absent (trimmed_subset _ kept)

end Trimming

section Cut

variable {p : Char → Bool} {c : Char} {cs rest key value : List Char}

theorem cutFirst_of_separator (hit : p c = true) : cutFirst p (c :: rest) = ([], some rest) :=
  if_pos hit

theorem cutFirst_of_other (miss : p c = false) :
    cutFirst p (c :: rest) = (c :: (cutFirst p rest).1, (cutFirst p rest).2) :=
  if_neg (by simp [miss])

/-- A cut is at a separator, with none before it. -/
theorem cutFirst_eq_some_iff :
    cutFirst p cs = (key, some value) ↔
      (∀ c ∈ key, p c = false) ∧
        ∃ separator, p separator = true ∧ cs = key ++ separator :: value := by
  induction cs generalizing key with
  | nil => simp [cutFirst]
  | cons c rest ih =>
    cases hit : p c with
    | true =>
      rw [cutFirst_of_separator hit]
      constructor
      · intro cut
        cases cut
        exact ⟨by simp, c, hit, rfl⟩
      · rintro ⟨free, separator, -, whole⟩
        cases key with
        | nil => cases whole; rfl
        | cons k key =>
          cases whole
          simp [free c] at hit
    | false =>
      rw [cutFirst_of_other hit]
      constructor
      · intro cut
        obtain ⟨rfl, later⟩ := Prod.mk.inj cut
        obtain ⟨free, separator, found, split⟩ := ih.mp (Prod.ext rfl later)
        exact ⟨by simpa [hit] using free, separator, found, congrArg (c :: ·) split⟩
      · rintro ⟨free, separator, found, whole⟩
        cases key with
        | nil =>
          cases whole
          simp [found] at hit
        | cons k key =>
          obtain ⟨rfl, split⟩ := List.cons.inj whole
          have inner : cutFirst p rest = (key, some value) :=
            ih.mpr ⟨fun k among => free k (List.mem_cons_of_mem _ among), separator, found, split⟩
          rw [inner]

theorem cutFirst_eq_none_iff :
    cutFirst p cs = (key, none) ↔ key = cs ∧ ∀ c ∈ cs, p c = false := by
  induction cs generalizing key with
  | nil =>
    constructor
    · intro cut
      cases cut
      exact ⟨rfl, by simp⟩
    · rintro ⟨rfl, -⟩
      rfl
  | cons c rest ih =>
    cases hit : p c with
    | true => simp [cutFirst_of_separator hit, hit]
    | false =>
      rw [cutFirst_of_other hit]
      constructor
      · intro cut
        obtain ⟨rfl, uncut⟩ := Prod.mk.inj cut
        obtain ⟨whole, free⟩ := ih.mp (Prod.ext rfl uncut)
        exact ⟨congrArg (c :: ·) whole, by simpa [hit] using free⟩
      · rintro ⟨rfl, free⟩
        have inner : cutFirst p rest = (rest, none) :=
          ih.mpr ⟨rfl, fun k among => free k (List.mem_cons_of_mem _ among)⟩
        rw [inner]

theorem after?_eq_some_iff {opening s rest : String} :
    after? opening s = some rest ↔ s = opening ++ rest := by
  rw [after?, Option.map_eq_some_iff]
  constructor
  · rintro ⟨tail, found, rfl⟩
    rw [← String.toList_inj, String.toList_append, String.toList_ofList]
    exact (List.isPrefixOf?_eq_some_iff_append_eq.mp found).symm
  · rintro rfl
    refine ⟨rest.toList, ?_, String.ofList_toList⟩
    exact List.isPrefixOf?_eq_some_iff_append_eq.mpr String.toList_append.symm

end Cut

section Pieces

variable {sep : Char}

theorem pieces_append (sep : Char) (s t : String) :
    pieces sep (s ++ String.singleton sep ++ t) = pieces sep s ++ pieces sep t := by
  have characters : (s ++ String.singleton sep ++ t).toList = s.toList ++ sep :: t.toList := by
    simp
  rw [pieces, characters, List.splitOn_append_cons_self, List.map_append, ← pieces, ← pieces]

theorem pieces_joined {parts : List String} (some_part : parts ≠ [])
    (free : ∀ part ∈ parts, sep ∉ part.toList) : pieces sep (joined sep parts) = parts := by
  rw [pieces, joined, String.toList_intercalate, String.toList_singleton,
    List.splitOn_intercalate sep _ (by simpa using some_part), List.map_map]
  · simp
  · intro cs listed
    obtain ⟨part, among, rfl⟩ := List.mem_map.mp listed
    exact free part among

theorem joined_pieces (sep : Char) (s : String) : joined sep (pieces sep s) = s := by
  rw [joined, pieces, ← String.toList_inj, String.toList_intercalate, String.toList_singleton,
    List.map_map]
  simp [Function.comp_def]

theorem length_pieces (sep : Char) (s : String) :
    (pieces sep s).length = s.toList.count sep + 1 := by
  rw [pieces, List.length_map]
  induction s.toList with
  | nil => simp
  | cons c rest ih =>
    rw [List.splitOn_cons_eq_if_modifyHead]
    by_cases separates : c = sep
    · simp [separates, ih]
    · simp [separates, ih]

theorem not_mem_of_mem_splitOn {cs piece : List Char} (listed : piece ∈ cs.splitOn sep) :
    sep ∉ piece := by
  induction cs generalizing piece with
  | nil =>
    obtain rfl : piece = [] := by simpa using listed
    exact List.not_mem_nil
  | cons c rest ih =>
    rw [List.splitOn_cons_eq_if_modifyHead] at listed
    by_cases separates : c = sep
    · rcases List.mem_cons.mp (by simpa [separates] using listed) with rfl | later
      · exact List.not_mem_nil
      · exact ih later
    · -- the first piece of the rest gets the character in front
      obtain ⟨first, others, split⟩ := List.exists_cons_of_ne_nil (List.splitOn_ne_nil sep rest)
      have listed : piece = c :: first ∨ piece ∈ others := by
        simpa [separates, split] using listed
      rcases listed with rfl | other
      · have absent : sep ∉ first := ih (by simp [split])
        simp [absent, Ne.symm separates]
      · exact ih (by simp [split, other])

theorem not_mem_of_mem_pieces {s piece : String} (listed : piece ∈ pieces sep s) :
    sep ∉ piece.toList := by
  obtain ⟨cs, among, rfl⟩ := List.mem_map.mp listed
  rw [String.toList_ofList]
  exact not_mem_of_mem_splitOn among

end Pieces

end Provision.Text

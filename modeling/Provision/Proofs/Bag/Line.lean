import Provision.Bag.Line
import Provision.Proofs.Bag.Pairs
import Provision.Proofs.Text.Pieces

/-! A line escapes nothing, so a bag survives being written and read only when its texts
hold none of the separators and are trimmed. That is the whole condition, and every bag
that comes from a line meets it: the line of such a bag is a normal form of the lines that
describe it. -/

set_option autoImplicit false

namespace Provision.Bag

/-- A key and a value that one token tells exactly. -/
structure PlainPair (key value : String) : Prop where
  key_trimmed : Text.trim key = key
  key_semicolon : ';' ∉ key.toList
  key_equals : '=' ∉ key.toList
  value_trimmed : Text.trim value = value
  value_semicolon : ';' ∉ value.toList

/-- A bag of which each key, with its value, is plain. The empty key is allowed, and an
equals sign in a value is too. -/
def IsPlain (bag : Bag) : Prop :=
  ∀ key value, bag.get? key = some value → PlainPair key value

theorem ofList_isPlain {pairs : List (String × String)}
    (plain : ∀ pair ∈ pairs, PlainPair pair.1 pair.2) : (ofList pairs).IsPlain := by
  intro key value found
  exact plain (key, value) (mem_of_get?_ofList found)

section Reading

variable {token line : String} {pair : String × String}

/-- Whatever a token without a semicolon gives is plain. -/
theorem plainPair_of_pairOfToken? (free : ';' ∉ token.toList)
    (given : pairOfToken? token = some pair) : PlainPair pair.1 pair.2 := by
  unfold pairOfToken? at given
  split at given
  · cases given
  · split at given
    next key value cut =>
      obtain rfl := Option.some.inj given
      obtain ⟨keyFree, separator, -, whole⟩ := Text.cutFirst_eq_some_iff.mp cut
      rw [whole] at free
      refine ⟨Text.trim_trim _, Text.not_mem_trim ?_, Text.not_mem_trim ?_, Text.trim_trim _,
        Text.not_mem_trim ?_⟩ <;> rw [String.toList_ofList]
      · intro among
        exact free (List.mem_append_left _ among)
      · intro among
        simpa using keyFree '=' among
      · intro among
        exact free (List.mem_append_right _ (List.mem_cons_of_mem _ among))
    next key cut =>
      obtain rfl := Option.some.inj given
      obtain ⟨-, keyFree⟩ := Text.cutFirst_eq_none_iff.mp cut
      refine ⟨Text.trim_trim _, Text.not_mem_trim free, Text.not_mem_trim ?_, Text.trim_empty, ?_⟩
      · intro among
        simpa using keyFree '=' among
      · simp

theorem ofLine_isPlain (line : String) : (ofLine line).IsPlain := by
  apply ofList_isPlain
  intro pair given
  obtain ⟨token, piece, read⟩ := List.mem_filterMap.mp given
  exact plainPair_of_pairOfToken? (Text.not_mem_of_mem_pieces piece) read

end Reading

section Writing

variable {key value : String} {bag : Bag}

theorem PlainPair.pairOfToken?_tokenText (plain : PlainPair key value) :
    pairOfToken? (tokenText (key, value)) = some (key, value) := by
  have text : (tokenText (key, value)).toList = key.toList ++ '=' :: value.toList := by
    simp [tokenText]
  have cut : Text.cutFirst (· == '=') (tokenText (key, value)).toList =
      (key.toList, some value.toList) := by
    refine Text.cutFirst_eq_some_iff.mpr ⟨?_, '=', by simp, text⟩
    intro c among
    exact beq_eq_false_iff_ne.mpr (fun same => plain.key_equals (same ▸ among))
  have present : ¬ Text.trim (tokenText (key, value)) = "" := by
    intro blank
    have equalsBlank := (Text.trim_eq_empty_iff _).mp blank '=' (by simp [text])
    exact absurd equalsBlank (by decide)
  rw [pairOfToken?, if_neg present, cut]
  simp [plain.key_trimmed, plain.value_trimmed]

theorem PlainPair.semicolon_not_mem_tokenText (plain : PlainPair key value) :
    ';' ∉ (tokenText (key, value)).toList := by
  simp [tokenText, plain.key_semicolon, plain.value_semicolon]

theorem IsPlain.linePairs_line (plain : bag.IsPlain) : linePairs bag.line = bag.toList := by
  have pair_plain : ∀ pair ∈ bag.toList, PlainPair pair.1 pair.2 :=
    fun pair among => plain pair.1 pair.2 (mem_toList_iff.mp among)
  cases pairs : bag.toList with
  | nil =>
    -- the line of the empty bag is empty, and its one piece is blank
    rw [linePairs, line, pairs]
    rfl
  | cons pair rest =>
    rw [pairs] at pair_plain
    have tokens : Text.pieces ';' bag.line = (pair :: rest).map tokenText := by
      rw [line, pairs]
      refine Text.pieces_joined (by simp) ?_
      intro token among
      obtain ⟨pair, listed, rfl⟩ := List.mem_map.mp among
      exact (pair_plain pair listed).semicolon_not_mem_tokenText
    rw [linePairs, tokens, List.filterMap_map]
    refine (List.filterMap_congr ?_).trans List.filterMap_some
    intro ⟨key, value⟩ listed
    rw [Function.comp_apply, (pair_plain (key, value) listed).pairOfToken?_tokenText]

theorem IsPlain.ofLine_line (plain : bag.IsPlain) : ofLine bag.line = bag := by
  rw [ofLine, plain.linePairs_line, ofList_toList]

end Writing

/-- A bag is read back from its line if and only if it is plain, and every bag that a
line describes is. -/
theorem readBack_iff_plain :
    (∀ bag : Bag, ofLine bag.line = bag ↔ bag.IsPlain) ∧
      ∀ text : String, (ofLine text).IsPlain ∧ ofLine (ofLine text).line = ofLine text := by
  constructor
  · intro bag
    constructor
    · intro same
      rw [← same]
      exact ofLine_isPlain bag.line
    · intro plain
      exact plain.ofLine_line
  · intro text
    have plain := ofLine_isPlain text
    exact ⟨plain, plain.ofLine_line⟩

end Provision.Bag

import Provision.Bag.Line
import Provision.Proofs.Bag.Override
import Provision.Proofs.Text.Pieces

/-! A line that follows another one after a semicolon overrides it, token by token. So the
value of a key in a line is told by the last token that speaks of the key, and what other
tokens say, or leave blank, is of no account. -/

set_option autoImplicit false

namespace Provision.Bag

/-- What a token says: the value of a key. The equals sign meant is the first one, and a
token that has one is not blank. -/
inductive Tells : (token key value : String) → Prop
  | pair {front back : String} (first : '=' ∉ front.toList) :
      Tells (front ++ "=" ++ back) (Text.trim front) (Text.trim back)
  | bare {token : String} (unpaired : '=' ∉ token.toList)
      (solid : ∃ c ∈ token.toList, Text.isBlank c = false) : Tells token (Text.trim token) ""

/-- The last token that gives the key a value gives it this one. -/
def LastTold (tokens : List String) (key value : String) : Prop :=
  ∃ before token after, tokens = before ++ token :: after ∧ Tells token key value ∧
    ∀ later ∈ after, ∀ other, ¬ Tells later key other

section Token

variable {token key value : String}

theorem Tells.solid (tells : Tells token key value) : Text.trim token ≠ "" := by
  rw [Text.trim_ne_empty_iff]
  cases tells with
  | pair => exact ⟨'=', by simp, by decide⟩
  | bare unpaired solid => exact solid

theorem pairOfToken?_eq_some_iff :
    pairOfToken? token = some (key, value) ↔ Tells token key value := by
  constructor
  · intro read
    unfold pairOfToken? at read
    split at read
    · cases read
    next solid =>
      split at read
      next front back cut =>
        cases read
        obtain ⟨free, separator, found, whole⟩ := Text.cutFirst_eq_some_iff.mp cut
        obtain rfl : separator = '=' := by simpa using found
        have text : token = String.ofList front ++ "=" ++ String.ofList back := by
          rw [← String.toList_inj, whole]
          simp
        rw [text]
        refine Tells.pair ?_
        rw [String.toList_ofList]
        intro among
        simpa using free '=' among
      next front cut =>
        cases read
        obtain ⟨-, free⟩ := Text.cutFirst_eq_none_iff.mp cut
        refine Tells.bare ?_ ((Text.trim_ne_empty_iff _).mp solid)
        intro among
        simpa using free '=' among
  · intro tells
    rw [pairOfToken?, if_neg tells.solid]
    cases tells with
    | @pair front back first =>
      have cut : Text.cutFirst (· == '=') (front ++ "=" ++ back).toList =
          (front.toList, some back.toList) := by
        refine Text.cutFirst_eq_some_iff.mpr ⟨?_, '=', by simp, by simp⟩
        intro c among
        exact beq_eq_false_iff_ne.mpr (fun same => first (same ▸ among))
      rw [cut]
      simp
    | bare unpaired =>
      have cut : Text.cutFirst (· == '=') token.toList = (token.toList, none) := by
        refine Text.cutFirst_eq_none_iff.mpr ⟨rfl, ?_⟩
        intro c among
        exact beq_eq_false_iff_ne.mpr (fun same => unpaired (same ▸ among))
      rw [cut]

end Token

section Line

variable {line key value : String}

theorem linePairs_append (s t : String) :
    linePairs (s ++ ";" ++ t) = linePairs s ++ linePairs t := by
  have tokens : Text.pieces ';' (s ++ ";" ++ t) = Text.pieces ';' s ++ Text.pieces ';' t :=
    Text.pieces_append ';' s t
  rw [linePairs, tokens, List.filterMap_append, ← linePairs, ← linePairs]

theorem ofLine_append (s t : String) :
    ofLine (s ++ ";" ++ t) = (ofLine s).overrideWith (ofLine t) := by
  rw [ofLine, linePairs_append, ofList_append, ← ofLine, ← ofLine]

theorem forall_filterMap_ne_iff (tokens : List String) :
    (∀ pair ∈ tokens.filterMap pairOfToken?, pair.1 ≠ key) ↔
      ∀ token ∈ tokens, ∀ value, ¬ Tells token key value := by
  constructor
  · intro apart token listed value tells
    exact apart (key, value)
      (List.mem_filterMap.mpr ⟨token, listed, pairOfToken?_eq_some_iff.mpr tells⟩) rfl
  · rintro silent ⟨key, value⟩ told rfl
    obtain ⟨token, listed, read⟩ := List.mem_filterMap.mp told
    exact silent token listed value (pairOfToken?_eq_some_iff.mp read)

theorem get?_ofLine_eq_none_iff :
    (ofLine line).get? key = none ↔
      ∀ token ∈ Text.pieces ';' line, ∀ value, ¬ Tells token key value := by
  rw [ofLine, get?_ofList_eq_none_iff, linePairs, forall_filterMap_ne_iff]

theorem get?_ofLine_eq_some_iff :
    (ofLine line).get? key = some value ↔ LastTold (Text.pieces ';' line) key value := by
  rw [ofLine, get?_ofList_eq_some_iff]
  constructor
  · rintro ⟨before, after, listed, others⟩
    -- the pair comes from a token, and the pairs after it from the tokens after that one
    obtain ⟨front, rest, whole, -, restPairs⟩ := List.filterMap_eq_append_iff.mp listed
    obtain ⟨blank, token, later, split, silent, read, laterPairs⟩ :=
      List.filterMap_eq_cons_iff.mp restPairs
    refine ⟨front ++ blank, token, later, ?_, pairOfToken?_eq_some_iff.mp read, ?_⟩
    · rw [whole, split, List.append_assoc]
    · rw [← laterPairs] at others
      exact (forall_filterMap_ne_iff later).mp others
  · rintro ⟨before, token, after, whole, tells, silent⟩
    refine ⟨before.filterMap pairOfToken?, after.filterMap pairOfToken?, ?_,
      (forall_filterMap_ne_iff after).mpr silent⟩
    rw [linePairs, whole, List.filterMap_append,
      List.filterMap_cons_some (pairOfToken?_eq_some_iff.mpr tells)]

end Line

/-- Reading lines turns the semicolon between them into one bag over another, and in each
line the last token that speaks of a key decides. -/
theorem ofLine_homomorphism :
    (∀ s t : String, ofLine (s ++ ";" ++ t) = (ofLine s).overrideWith (ofLine t)) ∧
      ∀ line key : String,
        (∀ value, (ofLine line).get? key = some value ↔
          LastTold (Text.pieces ';' line) key value) ∧
        ((ofLine line).get? key = none ↔
          ∀ token ∈ Text.pieces ';' line, ∀ value, ¬ Tells token key value) := by
  refine ⟨ofLine_append, ?_⟩
  intro line key
  exact ⟨fun value => get?_ofLine_eq_some_iff, get?_ofLine_eq_none_iff⟩

example : (ofLine " a = 1;;=x; b;a=2= ").toList = [("", "x"), ("a", "2="), ("b", "")] := by
  decide +kernel

end Provision.Bag

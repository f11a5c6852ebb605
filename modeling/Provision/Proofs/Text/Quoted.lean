import Mathlib.Tactic.IntervalCases
import Provision.Proofs.Text.Pieces
import Provision.Text.Quoted

/-! Quoted texts can be told apart. What stands between the quotes is read back one
character after the other, and no character begins with the quote that ends the text. So
an optional text that is shown in front of anything else is known from the whole. -/

set_option autoImplicit false

namespace Provision.Text

/-! ## Hexadecimal numerals -/

section Hexadecimal

variable {n value : Nat}

theorem hexDigits_of_lt (small : n < 16) : hexDigits n = [Nat.digitChar n] :=
  Nat.toDigits_of_lt_base small

theorem hexDigits_of_le (large : 16 ≤ n) :
    hexDigits n = hexDigits (n / 16) ++ [Nat.digitChar (n % 16)] :=
  Nat.toDigits_of_base_le (by decide) large

theorem mem_hexDigits {digit : Char} (written : digit ∈ hexDigits n) :
    ∃ value < 16, digit = Nat.digitChar value := by
  induction n using Nat.strong_induction_on with
  | h n ih =>
    rcases Nat.lt_or_ge n 16 with small | large
    · rw [hexDigits_of_lt small, List.mem_singleton] at written
      exact ⟨n, small, written⟩
    · rw [hexDigits_of_le large, List.mem_append, List.mem_singleton] at written
      rcases written with earlier | last
      · exact ih (n / 16) (by omega) earlier
      · exact ⟨n % 16, Nat.mod_lt n (by decide), last⟩

theorem hexValue?_digitChar (small : value < 16) : hexValue? (Nat.digitChar value) = some value := by
  interval_cases value <;> rfl

/-- The number that hexadecimal digits stand for. -/
def hexNumber (digits : List Char) : Nat :=
  digits.foldl (fun value digit => value * 16 + (hexValue? digit).getD 0) 0

theorem hexNumber_hexDigits : hexNumber (hexDigits n) = n := by
  induction n using Nat.strong_induction_on with
  | h n ih =>
    rcases Nat.lt_or_ge n 16 with small | large
    · simp [hexDigits_of_lt small, hexNumber, hexValue?_digitChar small]
    · have leading : hexNumber (hexDigits (n / 16)) = n / 16 := ih (n / 16) (by omega)
      have last : hexValue? (Nat.digitChar (n % 16)) = some (n % 16) :=
        hexValue?_digitChar (Nat.mod_lt n (by decide))
      rw [hexDigits_of_le large, hexNumber, List.foldl_append, ← hexNumber, leading]
      simp only [List.foldl_cons, List.foldl_nil, last, Option.getD_some]
      omega

theorem hexDigits_free {digit : Char} (written : digit ∈ hexDigits n) :
    (digit == '\x7d') = false := by
  obtain ⟨value, small, rfl⟩ := mem_hexDigits written
  interval_cases value <;> rfl

end Hexadecimal

/-! ## Characters between quotes -/

/-- The character that a letter after a backslash stands for. -/
def unmarked (mark : Char) : Char :=
  match mark with
  | '0' => '\x00'
  | 't' => '\t'
  | 'n' => '\n'
  | 'r' => '\r'
  | other => other

/-- The first character of a quoted text, and what follows it. -/
def shownChar? : List Char → Option (Char × List Char)
  | '\\' :: 'u' :: '\x7b' :: rest =>
    match cutFirst (· == '\x7d') rest with
    | (digits, some rest) => some (Char.ofNat (hexNumber digits), rest)
    | (_, none) => none
  | '\\' :: mark :: rest => some (unmarked mark, rest)
  | c :: rest => if c = '"' then none else some (c, rest)
  | [] => none

variable {c d : Char} {s t rest : List Char}

theorem shownChar?_of_plain (unquoted : c ≠ '"') (unescaped : c ≠ '\\') :
    shownChar? (c :: rest) = some (c, rest) := by
  unfold shownChar?
  split
  next escape => exact absurd (List.cons.inj escape).1 unescaped
  next escape => exact absurd (List.cons.inj escape).1 unescaped
  next plain =>
    cases plain
    exact if_neg unquoted
  next empty => cases empty

theorem shownChar?_of_number :
    shownChar? ('\\' :: 'u' :: '\x7b' :: (hexDigits c.toNat ++ '\x7d' :: rest)) =
      some (c, rest) := by
  have cut : cutFirst (· == '\x7d') (hexDigits c.toNat ++ '\x7d' :: rest) =
      (hexDigits c.toNat, some rest) :=
    cutFirst_eq_some_iff.mpr ⟨fun _ written => hexDigits_free written, '\x7d', rfl, rfl⟩
  simp only [shownChar?, cut, hexNumber_hexDigits, Char.ofNat_toNat]

/-- Each character is read back, whatever follows it. -/
theorem shownChar?_quotedChar : shownChar? (quotedChar c ++ rest) = some (c, rest) := by
  unfold quotedChar
  split
  case h_7 unquoted unescaped =>
    split
    · exact shownChar?_of_plain unquoted unescaped
    · simpa using shownChar?_of_number
  all_goals rfl

theorem quotedChar_append_inj {x y : List Char} (same : quotedChar c ++ x = quotedChar d ++ y) :
    c = d ∧ x = y := by
  have read := congrArg shownChar? same
  rw [shownChar?_quotedChar, shownChar?_quotedChar] at read
  cases read
  exact ⟨rfl, rfl⟩

theorem quotedChar_append_ne_quote {x y : List Char} : quotedChar c ++ x ≠ '"' :: y := by
  intro same
  have read := congrArg shownChar? same
  rw [shownChar?_quotedChar] at read
  cases read

/-! ## Quoted texts -/

/-- The closing quote is found, and with it the text before it. -/
theorem flatMap_quotedChar_inj {x y : List Char}
    (same : s.flatMap quotedChar ++ '"' :: x = t.flatMap quotedChar ++ '"' :: y) :
    s = t ∧ x = y := by
  induction s generalizing t with
  | nil =>
    cases t with
    | nil => exact ⟨rfl, (List.cons.inj same).2⟩
    | cons d t =>
      rw [List.flatMap_cons, List.append_assoc] at same
      exact absurd same.symm quotedChar_append_ne_quote
  | cons c s ih =>
    rw [List.flatMap_cons, List.append_assoc] at same
    cases t with
    | nil => exact absurd same quotedChar_append_ne_quote
    | cons d t =>
      rw [List.flatMap_cons, List.append_assoc] at same
      obtain ⟨head, tail⟩ := quotedChar_append_inj same
      obtain ⟨rest, following⟩ := ih tail
      exact ⟨by rw [head, rest], following⟩

/-- An optional text is known from any text that begins with it. -/
theorem quotedOption_append_inj {a b : Option String} {x y : List Char}
    (same : (quotedOption a).toList ++ x = (quotedOption b).toList ++ y) : a = b ∧ x = y := by
  cases a with
  | none =>
    cases b with
    | none => exact ⟨rfl, List.append_cancel_left same⟩
    | some t => simp [quotedOption] at same
  | some s =>
    cases b with
    | none => simp [quotedOption] at same
    | some t =>
      simp only [quotedOption, quoted, String.toList_append, String.toList_ofList,
        List.append_assoc, List.cons_append, List.nil_append] at same
      have between := (List.cons.inj (List.append_cancel_left same)).2
      obtain ⟨inside, outside⟩ := flatMap_quotedChar_inj between
      exact ⟨congrArg some (String.toList_inj.mp inside), List.append_cancel_left outside⟩

end Provision.Text

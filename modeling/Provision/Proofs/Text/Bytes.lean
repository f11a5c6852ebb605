import Mathlib.Algebra.Group.Nat.Defs
import Provision.Text.Cut

/-! Texts in the order of their bytes. The order of two texts is that of their first
different characters. It is also the order of their first different bytes: a character of
more bytes has the greater first byte, and in characters of as many bytes the bits of
their numbers follow one another from the first byte to the last. -/

set_option autoImplicit false

namespace Provision.Text

/-- The bytes that a text is kept in. -/
def bytes (s : String) : List UInt8 :=
  s.toUTF8.data.toList

/-- A byte with the low bits of a number after a mark. -/
def marked (mark width n : Nat) : UInt8 :=
  UInt8.ofNat (n % width + mark)

/-- The bits of a number in one byte with a mark of its own and some further bytes. -/
def spread (mark width : Nat) : Nat → Nat → List UInt8
  | 0, n => [marked mark width n]
  | further + 1, n => spread mark width further (n / 64) ++ [marked 0x80 64 n]

/-- The mark of the first byte before some further bytes. -/
def firstMark : Nat → Nat
  | 0 => 0
  | 1 => 0xc0
  | 2 => 0xe0
  | _ => 0xf0

/-- How many values the first byte has before some further bytes. -/
def firstWidth : Nat → Nat
  | 0 => 0x80
  | 1 => 0x20
  | 2 => 0x10
  | _ => 0x08

section Bytes

variable {mark width n m : Nat}

theorem toNat_marked (fits : width + mark ≤ 256) (some : 0 < width) :
    (marked mark width n).toNat = n % width + mark := by
  have below := Nat.mod_lt n some
  rw [marked, UInt8.toNat_ofNat', Nat.mod_eq_of_lt (by omega)]

theorem marked_lt (fits : width + mark ≤ 256) (some : 0 < width) (less : n % width < m % width) :
    marked mark width n < marked mark width m := by
  rw [UInt8.lt_iff_toNat_lt, toNat_marked fits some, toNat_marked fits some]
  exact Nat.add_lt_add_right less mark

/-- Numbers in as many bytes with one mark are in the order of these bytes. -/
theorem spread_lt {further : Nat} (fits : width + mark ≤ 256) (some : 0 < width) (less : n < m)
    (bound : m < width * 64 ^ further) (p q : List UInt8) :
    spread mark width further n ++ p < spread mark width further m ++ q := by
  induction further generalizing n m p q with
  | zero =>
    rw [Nat.pow_zero, Nat.mul_one] at bound
    have low : n % width < m % width := by
      rwa [Nat.mod_eq_of_lt bound, Nat.mod_eq_of_lt (Nat.lt_trans less bound)]
    exact List.cons_lt_cons_iff.mpr (.inl (marked_lt fits some low))
  | succ further ih =>
    have digits : n / 64 < m / 64 ∨ n / 64 = m / 64 ∧ n % 64 < m % 64 := by omega
    simp only [spread, List.append_assoc]
    rcases digits with front | ⟨same, last⟩
    · rw [Nat.pow_succ, ← Nat.mul_assoc, Nat.mul_comm] at bound
      exact ih front (Nat.div_lt_of_lt_mul bound) _ _
    · rw [same]
      have low : marked 0x80 64 n < marked 0x80 64 m :=
        marked_lt (by decide) (by decide) last
      exact List.append_left_lt (List.cons_lt_cons_iff.mpr (.inl low))

theorem spread_head (mark width further n : Nat) :
    ∃ m rest, spread mark width further n = marked mark width m :: rest := by
  induction further generalizing n with
  | zero => exact ⟨n, [], rfl⟩
  | succ further ih =>
    obtain ⟨m, rest, front⟩ := ih (n / 64)
    exact ⟨m, rest ++ [marked 0x80 64 n], by rw [spread, front, List.cons_append]⟩

end Bytes

theorem firstWidth_fits : ∀ further ≤ 3,
    firstWidth further + firstMark further ≤ 256 ∧ 0 < firstWidth further := by
  decide

/-- The first byte tells how many bytes there are. -/
theorem firstMark_apart : ∀ further ≤ 3, ∀ fewer < further,
    firstWidth fewer + firstMark fewer ≤ firstMark further := by
  decide

section Characters

variable {c d : Char} {p q : List UInt8}

/-- A character is in as few bytes as have room for its number. -/
theorem utf8EncodeChar_eq_spread (c : Char) :
    ∃ further ≤ 3, String.utf8EncodeChar c =
        spread (firstMark further) (firstWidth further) further c.toNat ∧
      c.toNat < firstWidth further * 64 ^ further ∧
      ∀ fewer < further, firstWidth fewer * 64 ^ fewer ≤ c.toNat := by
  have bound : c.toNat < 0x110000 := by
    have valid : c.toNat < 0xd800 ∨ 0xdfff < c.toNat ∧ c.toNat < 0x110000 := c.valid
    omega
  -- the sizes of characters are told apart by the room that each size has
  fun_cases String.utf8EncodeChar c with
  | case1 n one =>
    refine ⟨0, by decide, ?_, Nat.lt_succ_of_le one, by simp⟩
    exact congrArg (fun low => [UInt8.ofNat low]) (Nat.mod_eq_of_lt (Nat.lt_succ_of_le one)).symm
  | case2 n more two =>
    have rooms : ∀ fewer < 1, firstWidth fewer * 64 ^ fewer ≤ 0x80 := by decide
    refine ⟨1, by decide, rfl, Nat.lt_succ_of_le two, ?_⟩
    intro fewer less
    exact Nat.le_trans (rooms fewer less) (Nat.lt_of_not_le more)
  | case3 n _ more three =>
    have rooms : ∀ fewer < 2, firstWidth fewer * 64 ^ fewer ≤ 0x800 := by decide
    refine ⟨2, by decide, ?_, Nat.lt_succ_of_le three, ?_⟩
    · simp only [spread, Nat.div_div_eq_div_mul]
      rfl
    · intro fewer less
      exact Nat.le_trans (rooms fewer less) (Nat.lt_of_not_le more)
  | case4 n _ _ more =>
    have rooms : ∀ fewer < 3, firstWidth fewer * 64 ^ fewer ≤ 0x10000 := by decide
    refine ⟨3, by decide, ?_, Nat.lt_trans bound (by decide), ?_⟩
    · simp only [spread, Nat.div_div_eq_div_mul]
      rfl
    · intro fewer less
      exact Nat.le_trans (rooms fewer less) (Nat.lt_of_not_le more)

theorem utf8EncodeChar_lt (less : c < d) (p q : List UInt8) :
    String.utf8EncodeChar c ++ p < String.utf8EncodeChar d ++ q := by
  have order : c.toNat < d.toNat := less
  obtain ⟨k, hk, encoded, room, full⟩ := utf8EncodeChar_eq_spread c
  obtain ⟨l, hl, encoded', room', full'⟩ := utf8EncodeChar_eq_spread d
  rcases Nat.lt_trichotomy k l with fewer | rfl | more
  · obtain ⟨n, rest, head⟩ := spread_head (firstMark k) (firstWidth k) k c.toNat
    obtain ⟨m, rest', head'⟩ := spread_head (firstMark l) (firstWidth l) l d.toNat
    obtain ⟨fits, some⟩ := firstWidth_fits k hk
    obtain ⟨fits', some'⟩ := firstWidth_fits l hl
    have apart := firstMark_apart l hl k fewer
    have below := Nat.mod_lt n some
    rw [encoded, encoded', head, head']
    refine List.cons_lt_cons_iff.mpr (.inl ?_)
    rw [UInt8.lt_iff_toNat_lt, toNat_marked fits some, toNat_marked fits' some']
    omega
  · obtain ⟨fits, some⟩ := firstWidth_fits k hk
    rw [encoded, encoded']
    exact spread_lt fits some order room' p q
  · have reached := full l more
    omega

end Characters

theorem bytes_eq_flatMap (s : String) : bytes s = s.toList.flatMap String.utf8EncodeChar := by
  have encoded : s.toUTF8 = s.toList.utf8Encode := by
    rw [String.toUTF8_eq_toByteArray, ← String.toByteArray_ofList, String.ofList_toList]
  rw [bytes, encoded, List.utf8Encode, List.data_toByteArray]

theorem flatMap_utf8EncodeChar_lt {cs ds : List Char} (less : cs < ds) :
    cs.flatMap String.utf8EncodeChar < ds.flatMap String.utf8EncodeChar := by
  induction cs generalizing ds with
  | nil =>
    cases ds with
    | nil => cases less
    | cons d ds =>
      obtain ⟨first, rest, encoded⟩ :=
        List.exists_cons_of_ne_nil (String.utf8EncodeChar_ne_nil (c := d))
      rw [List.flatMap_cons, encoded]
      exact List.nil_lt_cons _ _
  | cons c cs ih =>
    cases ds with
    | nil => cases less
    | cons d ds =>
      rw [List.flatMap_cons, List.flatMap_cons]
      rcases List.cons_lt_cons_iff.mp less with first | ⟨rfl, rest⟩
      · exact utf8EncodeChar_lt first _ _
      · exact List.append_left_lt (ih rest)

/-- Texts are in the order of their bytes. -/
theorem bytes_lt_iff {s t : String} : bytes s < bytes t ↔ s < t := by
  have ascends {s t : String} (less : s < t) : bytes s < bytes t := by
    rw [bytes_eq_flatMap, bytes_eq_flatMap]
    exact flatMap_utf8EncodeChar_lt less
  constructor
  · intro less
    apply Classical.byContradiction
    intro notBefore
    by_cases same : s = t
    · subst same
      exact List.lt_irrefl _ less
    · have after : t < s := String.not_le.mp fun before =>
        same (String.le_antisymm before (String.not_lt.mp notBefore))
      exact List.lt_asymm less (ascends after)
  · exact ascends

end Provision.Text

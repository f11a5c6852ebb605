/-! Readers take something from the front of a text and hand back the rest together with a
proof that it is shorter, or not longer. The length of the rest is what makes repeated
reading end. -/

set_option autoImplicit false

namespace Provision.Text

/-- What is left of a text after something was read from its front. -/
abbrev Rest {α : Type} (s : List α) := { r : List α // r.length < s.length }

/-- What is left after the first character. -/
def Rest.tail {α : Type} (c : α) (rest : List α) : Rest (c :: rest) :=
  ⟨rest, Nat.lt_succ_self _⟩

/-- What is left of a text after something that may have been empty. -/
abbrev Remainder {α : Type} (s : List α) := { r : List α // r.length ≤ s.length }

/-- The text from the first character on that does not satisfy `p`. -/
def skipWhile {α : Type} (p : α → Bool) (s : List α) : Remainder s :=
  ⟨s.dropWhile p, (List.dropWhile_sublist p).length_le⟩

end Provision.Text

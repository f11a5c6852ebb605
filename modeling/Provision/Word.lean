/-! The whole numbers that fit a machine word of some number of bits. Settings and counts
of seconds are kept in words of 64 bits, ports in words of 16. -/

set_option autoImplicit false

namespace Provision.Word

/-- How many values a word of so many bits has. -/
def count (bits : Nat) : Nat := Nat.pow 2 bits

/-- Whether a number fits a word without a sign. -/
def fits (bits : Nat) (n : Nat) : Bool := n < count bits

theorem fits_iff {bits n : Nat} : fits bits n = true ↔ n < count bits := by
  simp [fits]

/-- Whether a number fits a word with a sign. -/
def fitsSigned (bits : Nat) (n : Int) : Bool :=
  -(count (bits - 1) : Int) ≤ n && n < count (bits - 1)

end Provision.Word

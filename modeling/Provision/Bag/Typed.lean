import Provision.Bag.Basic
import Provision.Text.Numeral

/-! Values of a bag as texts, numbers and truth values. A value that is not of the wanted
type counts as missing. -/

set_option autoImplicit false

namespace Provision.Bag

/-- The value of a key, or the empty text. -/
def text (bag : Bag) (key : String) : String :=
  (bag.get? key).getD ""

/-- The value of a key unless it is empty. -/
def nonEmpty? (bag : Bag) (key : String) : Option String :=
  (bag.get? key).filter (· ≠ "")

/-- The first of two keys with a value that is not empty. -/
def firstNonEmpty? (bag : Bag) (key fallback : String) : Option String :=
  (bag.nonEmpty? key).or (bag.nonEmpty? fallback)

/-- The value of a key as a whole number of 64 bits with a sign. -/
def integer? (bag : Bag) (key : String) : Option Int :=
  (bag.get? key).bind fun value => Text.signed64? (Text.trim value)

/-- The value of a key as a number that is not negative. -/
def natural? (bag : Bag) (key : String) : Option Nat :=
  (bag.integer? key).bind fun n => if 0 ≤ n then some n.toNat else none

def integerOr (bag : Bag) (key : String) (default : Int) : Int :=
  (bag.integer? key).getD default

/-- The truth value that a word stands for, in letters of either case. -/
def truthOfWord? (word : String) : Option Bool :=
  let lower := String.ofList (word.toList.map Char.toLower)
  if lower ∈ ["true", "t", "yes", "y", "1"] then some true
  else if lower ∈ ["false", "f", "no", "n", "0"] then some false
  else none

def truth? (bag : Bag) (key : String) : Option Bool :=
  (bag.get? key).bind fun value => truthOfWord? (Text.trim value)

end Provision.Bag

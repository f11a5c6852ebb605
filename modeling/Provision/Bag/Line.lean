import Provision.Bag.Basic
import Provision.Text.Blank
import Provision.Text.Cut

/-! Bags on one line, in the form `key=value;key=value`. Nothing is escaped: tokens end at
semicolons, and the first equals sign of a token ends its key. Keys and values are
trimmed, blank tokens are skipped, and a token without an equals sign is a key with an
empty value. -/

set_option autoImplicit false

namespace Provision.Bag

/-- The key and value that a token gives, if it is not blank. -/
def pairOfToken? (token : String) : Option (String × String) :=
  if Text.trim token = "" then none
  else
    match Text.cutFirst (· == '=') token.toList with
    | (key, some value) => some (Text.trim (String.ofList key), Text.trim (String.ofList value))
    | (_, none) => some (Text.trim token, "")

def linePairs (line : String) : List (String × String) :=
  (Text.pieces ';' line).filterMap pairOfToken?

def ofLine (line : String) : Bag :=
  ofList (linePairs line)

/-- A key and its value as one token. -/
def tokenText (pair : String × String) : String :=
  pair.1 ++ "=" ++ pair.2

/-- The line of a bag, with its keys in ascending order. -/
def line (bag : Bag) : String :=
  Text.joined ';' (bag.toList.map tokenText)

/-- Whether the line of a bag describes that bag. -/
def isReadBack (bag : Bag) : Bool :=
  ofLine bag.line == bag

end Provision.Bag

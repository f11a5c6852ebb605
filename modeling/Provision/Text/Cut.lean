/-! A text is cut at the first character of a kind, into all the pieces between the
occurrences of a separator, or after a given opening. -/

set_option autoImplicit false

namespace Provision.Text

/-- What stands before the first character that satisfies `p` and, if there is such
a character, what stands after it. -/
def cutFirst (p : Char → Bool) : List Char → List Char × Option (List Char)
  | [] => ([], none)
  | c :: rest =>
    if p c then ([], some rest)
    else ((c :: (cutFirst p rest).1), (cutFirst p rest).2)

/-- The pieces between the occurrences of `sep`; a text without any is its own only piece. -/
def pieces (sep : Char) (s : String) : List String :=
  (s.toList.splitOn sep).map String.ofList

/-- Pieces put side by side with `sep` between them. -/
def joined (sep : Char) (parts : List String) : String :=
  (String.singleton sep).intercalate parts

/-- What follows `opening` in a text that starts with it. -/
def after? (opening s : String) : Option String :=
  (opening.toList.isPrefixOf? s.toList).map String.ofList

end Provision.Text

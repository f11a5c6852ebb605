import Provision.Text.Rest
import Provision.Toml.Document
import Provision.Toml.Scalar

/-! Documents of TOML 1.1, statement by statement. Each step returns the rest of the text
with a proof that it is not longer, or that it is shorter where something had to be read,
so reading ends. -/

set_option autoImplicit false

namespace Provision.Toml

open Text (Rest Remainder)

/-- How deeply arrays and inline tables may be nested, and how many parts a key may have. -/
def depthLimit : Nat := 80

/-- The two characters that may stand between the parts of a line. -/
def isSpace (c : Char) : Bool :=
  c == ' ' || c == '\t'

def skipSpace (s : List Char) : Remainder s :=
  Text.skipWhile isSpace s

/-- Characters that stand for themselves in comments and quoted strings. -/
def isVisible (c : Char) : Bool :=
  c == '\t' || (0x20 ≤ c.toNat && c.toNat != 0x7F)

/-- Skips a line end, if there is one here. -/
def lineEnd? : (s : List Char) → Option (Rest s)
  | '\n' :: rest => some (Text.Rest.tail _ rest)
  | '\r' :: '\n' :: rest => some ⟨rest, by simp only [List.length_cons]; omega⟩
  | _ => none

/-- Skips a comment, if there is one here, up to the end of its line. -/
def skipComment (s : List Char) : Remainder s :=
  match s with
  | '#' :: rest =>
    ⟨rest.dropWhile isVisible,
      Nat.le_succ_of_le (List.dropWhile_sublist _).length_le⟩
  | s => ⟨s, Nat.le_refl _⟩

/-- Skips spaces, comments and line ends. -/
def skipLines (s : List Char) : Remainder s :=
  let ⟨r, le⟩ := skipSpace s
  let ⟨r', le'⟩ := skipComment r
  match lineEnd? r' with
  | none => ⟨r', by omega⟩
  | some ⟨r'', shorter⟩ =>
    let ⟨rest, le''⟩ := skipLines r''
    ⟨rest, by omega⟩
termination_by s.length

/-- The character with a code point written in hexadecimal digits, surrogates excepted. -/
def codePoint? (digits : List Char) : Option Char :=
  if digits.all fun c => (Text.hexValue? c).isSome then
    let n := inBase 16 digits
    if n < 0xD800 ∨ (0xDFFF < n ∧ n < 0x110000) then some (Char.ofNat n) else none
  else none

/-- Reads the code point of an escape, which has a fixed number of digits. -/
def codeEscape? (count : Nat) (s : List Char) : Option (Char × Remainder s) :=
  if (s.take count).length = count then
    (codePoint? (s.take count)).map fun c => (c, ⟨s.drop count, (List.drop_sublist _ _).length_le⟩)
  else none

/-- Reads an escape after its backslash. -/
def escape? : (s : List Char) → Option (Char × Rest s)
  | [] => none
  | c :: rest =>
    let simple (d : Char) : Option (Char × Rest (c :: rest)) := some (d, Text.Rest.tail _ rest)
    let coded (count : Nat) : Option (Char × Rest (c :: rest)) := do
      let (d, ⟨r, le⟩) ← codeEscape? count rest
      return (d, ⟨r, by simp only [List.length_cons]; omega⟩)
    if c = '"' then simple '"'
    else if c = '\\' then simple '\\'
    else if c = 'b' then simple '\x08'
    else if c = 'e' then simple '\x1b'
    else if c = 'f' then simple '\x0c'
    else if c = 'n' then simple '\n'
    else if c = 'r' then simple '\r'
    else if c = 't' then simple '\t'
    else if c = 'x' then coded 2
    else if c = 'u' then coded 4
    else if c = 'U' then coded 8
    else none

/-- Reads a basic string after its opening quote. -/
def basicBody? (s : List Char) : Option (List Char × Rest s) :=
  match s with
  | [] => none
  | c :: rest =>
    if c = '"' then some ([], Text.Rest.tail _ rest)
    else if c = '\\' then do
      let (d, ⟨r, shorter⟩) ← escape? rest
      let (ds, ⟨r', shorter'⟩) ← basicBody? r
      return (d :: ds, ⟨r', Nat.lt_succ_of_lt (Nat.lt_trans shorter' shorter)⟩)
    else if isVisible c then do
      let (ds, ⟨r, shorter⟩) ← basicBody? rest
      return (c :: ds, ⟨r, Nat.lt_succ_of_lt shorter⟩)
    else none
termination_by s.length
decreasing_by all_goals simp only [List.length_cons]; omega

/-- Reads a literal string after its opening quote. -/
def literalBody? (s : List Char) : Option (List Char × Rest s) :=
  match s with
  | [] => none
  | c :: rest =>
    if c = '\'' then some ([], Text.Rest.tail _ rest)
    else if isVisible c then do
      let (ds, ⟨r, shorter⟩) ← literalBody? rest
      return (c :: ds, ⟨r, by simp only [List.length_cons]; omega⟩)
    else none

/-- The end of a string over several lines: three quotes, before which up to two
more belong to the string. -/
def longEnd? (quote : Char) (s : List Char) : Option (List Char × Rest s) :=
  let count := min (s.takeWhile (· == quote)).length 5
  if enough : 3 ≤ count then
    some (List.replicate (count - 3) quote, ⟨s.drop count, by
      have le : (s.takeWhile (· == quote)).length ≤ s.length :=
        (List.takeWhile_sublist _).length_le
      simp only [List.length_drop]
      omega⟩)
  else none

/-- The text without the spaces and line ends at its front. -/
def dropBlankLines : List Char → List Char
  | [] => []
  | c :: rest =>
    if isSpace c || c == '\n' then dropBlankLines rest
    else if c = '\r' ∧ rest.head? = some '\n' then dropBlankLines rest
    else c :: rest

theorem length_dropBlankLines_le (s : List Char) : (dropBlankLines s).length ≤ s.length := by
  fun_induction dropBlankLines s with
  | case1 => exact Nat.le_refl _
  | case2 c rest _ ih => exact Nat.le_succ_of_le ih
  | case3 c rest _ _ ih => exact Nat.le_succ_of_le ih
  | case4 => exact Nat.le_refl _

/-- After a backslash at the end of a line, the blank characters up to the next
visible one are skipped. -/
def continuation? (s : List Char) : Option (Remainder s) :=
  let ⟨r, le⟩ := skipSpace s
  match lineEnd? r with
  | none => none
  | some ⟨r', shorter⟩ =>
    some ⟨dropBlankLines r', by have := length_dropBlankLines_le r'; omega⟩

/-- A line end or a visible character inside a string over several lines. -/
def longChar? (c : Char) (rest : List Char) : Bool :=
  c == '\n' || isVisible c || (c == '\r' && rest.head? == some '\n')

/-- Reads a basic string over several lines after its opening quotes. -/
def longBasicBody? (s : List Char) : Option (List Char × Rest s) :=
  match longEnd? '"' s with
  | some found => some found
  | none =>
    match s with
    | [] => none
    | c :: rest =>
      if c = '\\' then
        match continuation? rest with
        | some ⟨r, le⟩ => do
          let (ds, ⟨r', shorter⟩) ← longBasicBody? r
          return (ds, ⟨r', by simp only [List.length_cons]; omega⟩)
        | none => do
          let (d, ⟨r, shorter⟩) ← escape? rest
          let (ds, ⟨r', shorter'⟩) ← longBasicBody? r
          return (d :: ds, ⟨r', by simp only [List.length_cons]; omega⟩)
      else if longChar? c rest then do
        let (ds, ⟨r, shorter⟩) ← longBasicBody? rest
        return (c :: ds, ⟨r, by simp only [List.length_cons]; omega⟩)
      else none
termination_by s.length
decreasing_by all_goals simp only [List.length_cons]; omega

/-- Reads a literal string over several lines after its opening quotes. -/
def longLiteralBody? (s : List Char) : Option (List Char × Rest s) :=
  match longEnd? '\'' s with
  | some found => some found
  | none =>
    match s with
    | [] => none
    | c :: rest =>
      if longChar? c rest then do
        let (ds, ⟨r, shorter⟩) ← longLiteralBody? rest
        return (c :: ds, ⟨r, by simp only [List.length_cons]; omega⟩)
      else none
termination_by s.length

/-- A line end right after opening quotes does not belong to the string. -/
def skipFirstLineEnd (s : List Char) : Remainder s :=
  match lineEnd? s with
  | none => ⟨s, Nat.le_refl _⟩
  | some ⟨r, shorter⟩ => ⟨r, Nat.le_of_lt shorter⟩

/-- Reads a quoted string of any of the four kinds. -/
def quoted? : (s : List Char) → Option (String × Rest s)
  | '"' :: '"' :: '"' :: rest => do
    let ⟨r, le⟩ := skipFirstLineEnd rest
    let (cs, ⟨r', shorter⟩) ← longBasicBody? r
    return (String.ofList cs, ⟨r', by simp only [List.length_cons]; omega⟩)
  | '\'' :: '\'' :: '\'' :: rest => do
    let ⟨r, le⟩ := skipFirstLineEnd rest
    let (cs, ⟨r', shorter⟩) ← longLiteralBody? r
    return (String.ofList cs, ⟨r', by simp only [List.length_cons]; omega⟩)
  | '"' :: rest => do
    let (cs, ⟨r, shorter⟩) ← basicBody? rest
    return (String.ofList cs, ⟨r, by simp only [List.length_cons]; omega⟩)
  | '\'' :: rest => do
    let (cs, ⟨r, shorter⟩) ← literalBody? rest
    return (String.ofList cs, ⟨r, by simp only [List.length_cons]; omega⟩)
  | _ => none

/-- The characters of a key without quotes. -/
def isKeyChar (c : Char) : Bool :=
  c.isAlphanum || c == '_' || c == '-'

/-- Reads one part of a key. -/
def keyPart? (s : List Char) : Option (String × Rest s) :=
  match s with
  | [] => none
  | c :: rest =>
    if c = '"' then do
      let (cs, ⟨r, shorter⟩) ← basicBody? rest
      return (String.ofList cs, ⟨r, by simp only [List.length_cons]; omega⟩)
    else if c = '\'' then do
      let (cs, ⟨r, shorter⟩) ← literalBody? rest
      return (String.ofList cs, ⟨r, by simp only [List.length_cons]; omega⟩)
    else if isKeyChar c then
      some (String.ofList (c :: rest.takeWhile isKeyChar),
        ⟨rest.dropWhile isKeyChar, Nat.lt_succ_of_le (List.dropWhile_sublist _).length_le⟩)
    else none

/-- Reads the parts of a key that follow the first one, each after a point. -/
def keyParts? (s : List Char) : Option (List String × Remainder s) :=
  match skipSpace s with
  | ⟨[], _⟩ => some ([], ⟨[], Nat.zero_le _⟩)
  | ⟨c :: rest, le⟩ =>
    if c = '.' then do
      let ⟨r, le'⟩ := skipSpace rest
      let (part, ⟨r', shorter⟩) ← keyPart? r
      let (parts, ⟨r'', le''⟩) ← keyParts? r'
      return (part :: parts,
        ⟨r'', Nat.le_trans le'' (Nat.le_of_lt (Nat.lt_of_lt_of_le shorter
          (Nat.le_trans le' (Nat.le_of_succ_le le))))⟩)
    else some ([], ⟨c :: rest, le⟩)
termination_by s.length
decreasing_by simp only [List.length_cons] at le; omega

/-- A key: the path to a table, and the key in that table. -/
def splitKey (first : String) (rest : List String) : List String × String :=
  ((first :: rest).dropLast, rest.getLastD first)

/-- Reads a key with all its parts, and the spaces around them. -/
def key? (s : List Char) : Option ((List String × String) × Rest s) := do
  let ⟨r, le⟩ := skipSpace s
  let (first, ⟨r', shorter⟩) ← keyPart? r
  let (parts, ⟨r'', le'⟩) ← keyParts? r'
  if parts.length < depthLimit then return (splitKey first parts, ⟨r'', by omega⟩) else none

/-- The characters that a scalar without quotes may be made of, as far as finding
its end is concerned. -/
def isScalarChar (c : Char) : Bool :=
  !(isSpace c || c == '\n' || c == '\r' || c == '#' || c == ',' || c == '=' ||
    c == '[' || c == ']' || c == '\x7b' || c == '\x7d')

/-- Whether a scalar goes on after spaces. -/
def goesOn (s : List Char) : Bool :=
  match s.dropWhile isSpace with
  | [] => false
  | c :: _ => isScalarChar c && c != '.' && c != '"' && c != '\''

/-- Reads the characters of a scalar without quotes. Spaces belong to it if it goes on
after them: a time may follow a date. -/
def plainBody : (s : List Char) → List Char × Remainder s
  | [] => ([], ⟨[], Nat.le_refl _⟩)
  | c :: rest =>
    if isScalarChar c || isSpace c && goesOn rest then
      let (cs, ⟨r, le⟩) := plainBody rest
      (c :: cs, ⟨r, Nat.le_succ_of_le le⟩)
    else ([], ⟨c :: rest, Nat.le_refl _⟩)

/-- Reads a scalar without quotes. -/
def plain? : (s : List Char) → Option (Scalar × Rest s)
  | [] => none
  | c :: rest =>
    let (cs, ⟨r, le⟩) := plainBody rest
    (scalar? (c :: cs)).map fun value => (value, ⟨r, Nat.lt_succ_of_le le⟩)

mutual

/-- Reads a value; `room` is how many arrays and inline tables may still be opened. -/
def value? (room : Nat) (s : List Char) : Option (Node × Rest s) :=
  match s with
  | [] => none
  | c :: rest =>
    if c = '"' ∨ c = '\'' then do
      let (text, ⟨r, shorter⟩) ← quoted? (c :: rest)
      return (.scalar (.string text), ⟨r, shorter⟩)
    else if c = '[' then
      match room with
      | 0 => none
      | inner + 1 => do
        let (items, ⟨r, shorter⟩) ← items? inner rest
        return (.array items, ⟨r, Nat.lt_succ_of_lt shorter⟩)
    else if c = '\x7b' then
      match room with
      | 0 => none
      | inner + 1 => do
        let (members, ⟨r, shorter⟩) ← inlineMembers? inner [] rest
        return (.table .inline members, ⟨r, Nat.lt_succ_of_lt shorter⟩)
    else do
      let (value, ⟨r, shorter⟩) ← plain? (c :: rest)
      return (.scalar value, ⟨r, shorter⟩)
termination_by (s.length, 0)
decreasing_by all_goals apply Prod.Lex.left; simp only [List.length_cons]; omega

/-- Reads the items of an array up to its closing bracket. -/
def items? (room : Nat) (s : List Char) : Option (List Node × Rest s) :=
  match skipLines s with
  | ⟨[], _⟩ => none
  | ⟨c :: rest, le⟩ =>
    if c = ']' then some ([], ⟨rest, le⟩)
    else do
      let (item, ⟨r, shorter⟩) ← value? room (c :: rest)
      match skipLines r with
      | ⟨[], _⟩ => none
      | ⟨d :: rest', le'⟩ =>
        if d = ']' then
          return ([item], ⟨rest', Nat.lt_trans le' (Nat.lt_of_lt_of_le shorter le)⟩)
        else if d = ',' then
          let (items, ⟨r', shorter'⟩) ← items? room rest'
          return (item :: items,
            ⟨r', Nat.lt_trans shorter' (Nat.lt_trans le' (Nat.lt_of_lt_of_le shorter le))⟩)
        else none
termination_by (s.length, 1)
decreasing_by
  · simp only [List.length_cons] at le ⊢
    rcases Nat.lt_or_eq_of_le le with lt | eq
    · exact Prod.Lex.left _ _ lt
    · rw [eq]; exact Prod.Lex.right _ (by omega)
  · simp only [List.length_cons] at le'; apply Prod.Lex.left; omega

/-- Reads the members of an inline table up to its closing brace. -/
def inlineMembers? (room : Nat) (done : Members) (s : List Char) :
    Option (Members × Rest s) :=
  match skipLines s with
  | ⟨[], _⟩ => none
  | ⟨c :: rest, le⟩ =>
    if c = '\x7d' then some (done, ⟨rest, le⟩)
    else do
      let ((path, key), node, ⟨r, shorter⟩) ← assignment? skipLines room (c :: rest)
      let members ← assign path key node done
      match skipLines r with
      | ⟨[], _⟩ => none
      | ⟨d :: rest', le'⟩ =>
        if d = '\x7d' then
          return (members, ⟨rest', Nat.lt_trans le' (Nat.lt_of_lt_of_le shorter le)⟩)
        else if d = ',' then
          let (members, ⟨r', shorter'⟩) ← inlineMembers? room members rest'
          return (members,
            ⟨r', Nat.lt_trans shorter' (Nat.lt_trans le' (Nat.lt_of_lt_of_le shorter le))⟩)
        else none
termination_by (s.length, 2)
decreasing_by
  · simp only [List.length_cons] at le ⊢
    rcases Nat.lt_or_eq_of_le le with lt | eq
    · exact Prod.Lex.left _ _ lt
    · rw [eq]; exact Prod.Lex.right _ (by omega)
  · simp only [List.length_cons] at le'; apply Prod.Lex.left; omega

/-- Reads a key, the sign after it and a value. What may stand on either side of the
sign is for `gap` to skip. -/
def assignment? (gap : (s : List Char) → Remainder s) (room : Nat) (s : List Char) :
    Option ((List String × String) × Node × Rest s) := do
  let (key, ⟨r, shorter⟩) ← key? s
  match gap r with
  | ⟨[], _⟩ => none
  | ⟨c :: rest, le⟩ =>
    if c = '=' then
      let ⟨r', le'⟩ := gap rest
      let (node, ⟨r'', shorter'⟩) ← value? room r'
      return (key, node, ⟨r'', by simp only [List.length_cons] at le; omega⟩)
    else none
termination_by (s.length, 1)
decreasing_by simp only [List.length_cons] at le; apply Prod.Lex.left; omega

end

/-- Reads the header of a table after its opening brackets, up to its closing ones. -/
def header? (inSequence : Bool) (s : List Char) : Option (Header × Rest s) := do
  let ((path, key), after) ← key? s
  match inSequence, after with
  | false, ⟨']' :: rest, shorter⟩ =>
    return (⟨path, key, false⟩, ⟨rest, by simp only [List.length_cons] at shorter; omega⟩)
  | true, ⟨']' :: ']' :: rest, shorter⟩ =>
    return (⟨path, key, true⟩, ⟨rest, by simp only [List.length_cons] at shorter; omega⟩)
  | _, _ => none

/-- Reads one statement at the front of a line that is not empty. -/
def statement? (draft : Draft) (s : List Char) : Option (Draft × Rest s) :=
  match s with
  | '[' :: '[' :: rest => do
    let (header, ⟨r, shorter⟩) ← header? true rest
    let draft ← draft.openTable header
    return (draft, ⟨r, by simp only [List.length_cons]; omega⟩)
  | '[' :: rest => do
    let (header, ⟨r, shorter⟩) ← header? false rest
    let draft ← draft.openTable header
    return (draft, ⟨r, by simp only [List.length_cons]; omega⟩)
  | s => do
    let ((path, key), node, ⟨r, shorter⟩) ← assignment? skipSpace depthLimit s
    let draft ← draft.put path key node
    return (draft, ⟨r, shorter⟩)

/-- Skips spaces and a comment up to a line end or the end of the text. -/
def lineRemainder? (s : List Char) : Option (Remainder s) :=
  let ⟨r, le⟩ := skipSpace s
  let ⟨r', le'⟩ := skipComment r
  if r'.isEmpty || (lineEnd? r').isSome then some ⟨r', by omega⟩ else none

/-- Reads statements up to the end of the text. -/
def statements? (draft : Draft) (s : List Char) : Option Draft :=
  match skipLines s with
  | ⟨[], _⟩ => some draft
  | ⟨c :: rest, le⟩ => do
    let (draft, ⟨r, shorter⟩) ← statement? draft (c :: rest)
    let ⟨r', le'⟩ ← lineRemainder? r
    have : r'.length < s.length := by simp only [List.length_cons] at le shorter; omega
    statements? draft r'
termination_by s.length

/-- A mark at the front of a text that tells its byte order is not part of it. -/
def skipByteOrderMark : List Char → List Char
  | '\ufeff' :: rest => rest
  | s => s

/-- The members of the table that a document stands for. Integers may have any size, and
numerals need not denote anything. -/
def readDocument? (s : String) : Option (List (String × Value)) := do
  let draft ← statements? Draft.empty (skipByteOrderMark s.toList)
  return memberValues (← draft.close)

end Provision.Toml

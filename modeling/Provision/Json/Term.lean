import Provision.Text.Cut
import Provision.Text.Numeral
import Provision.Text.Rest
import Provision.Text.Symbol

/-! JSON text read by its grammar alone. A term keeps numbers as their digits and strings
as the characters, escapes and stray bytes they were written with, because what they may
stand for depends on who asks: a number out of range, half of a surrogate pair or a stray
byte is an error where a value is wanted and harmless in a part that is ignored. Reading
is total: each step returns the rest of the text with a proof that it got shorter. Arrays
and objects are read as far as they follow the grammar, so that one who reads them item by
item meets errors in their order. -/

set_option autoImplicit false

namespace Provision.Json

open Text (Rest Remainder Symbol)

/-- A part of a string as written: a character, a 16-bit code given by an escape, or a
byte that belongs to no character. -/
inductive Piece where
  | char (c : Char)
  | code (unit : Nat)
  | stray (byte : UInt8)
deriving DecidableEq, Repr

/-- A number as written: its sign, the digits of its three parts, and the sign of
the exponent. A missing part is absent rather than empty. -/
structure Numeral where
  negative : Bool
  whole : List Char
  fraction : Option (List Char)
  exponent : Option (Bool × List Char)
deriving DecidableEq, Repr

inductive Term where
  | null
  | bool (value : Bool)
  | number (value : Numeral)
  | string (pieces : List Piece)
  | array (items : List Term)
  | object (members : List (List Piece × Term))

/-- The four characters that may stand between the parts of a text. -/
def isSpace : Symbol → Bool :=
  Symbol.isChar fun c => c == ' ' || c == '\t' || c == '\n' || c == '\r'

/-- The text without the spaces at its front. -/
def skipSpace (s : List Symbol) : Remainder s :=
  Text.skipWhile isSpace s

/-- The value of a hexadecimal digit. -/
def hexValue? (symbol : Symbol) : Option Nat :=
  symbol.char?.bind Text.hexValue?

/-- The value of four hexadecimal digits. -/
def hexCode? (a b c d : Symbol) : Option Nat := do
  let a ← hexValue? a
  let b ← hexValue? b
  let c ← hexValue? c
  let d ← hexValue? d
  return ((a * 16 + b) * 16 + c) * 16 + d

/-- The character that a one-letter escape stands for. -/
def escapedChar? : Symbol → Option Char
  | .char '"' => some '"'
  | .char '\\' => some '\\'
  | .char '/' => some '/'
  | .char 'b' => some '\x08'
  | .char 'f' => some '\x0c'
  | .char 'n' => some '\n'
  | .char 'r' => some '\r'
  | .char 't' => some '\t'
  | _ => none

/-- Reads a string after its opening quote, up to and including the closing one.
Control characters must be escaped. -/
def stringBody : (s : List Symbol) → Option (List Piece × Rest s)
  | [] => none
  | .char '"' :: rest => some ([], Text.Rest.tail _ rest)
  | .char '\\' :: .char 'u' :: a :: b :: c :: d :: rest => do
    let unit ← hexCode? a b c d
    let (pieces, ⟨r, shorter⟩) ← stringBody rest
    return (.code unit :: pieces, ⟨r, by simp only [List.length_cons]; omega⟩)
  | .char '\\' :: e :: rest => do
    let c ← escapedChar? e
    let (pieces, ⟨r, shorter⟩) ← stringBody rest
    return (.char c :: pieces, ⟨r, by simp only [List.length_cons]; omega⟩)
  | .char c :: rest =>
    if c.toNat < 0x20 ∨ c = '\\' then none
    else do
      let (pieces, ⟨r, shorter⟩) ← stringBody rest
      return (.char c :: pieces, ⟨r, by simp only [List.length_cons]; omega⟩)
  | .stray byte :: rest => do
    let (pieces, ⟨r, shorter⟩) ← stringBody rest
    return (.stray byte :: pieces, ⟨r, by simp only [List.length_cons]; omega⟩)

/-- A non-empty run of digits. -/
def digits? (cs : List Char) : Option (List Char) :=
  if !cs.isEmpty && cs.all Char.isDigit then some cs else none

/-- The exponent of a number after its mark: an optional sign and digits. -/
def exponent? : List Char → Option (Bool × List Char)
  | '+' :: ds => (digits? ds).map (false, ·)
  | '-' :: ds => (digits? ds).map (true, ·)
  | ds => (digits? ds).map (false, ·)

/-- A whole number written as the grammar asks: without a zero in front of other digits. -/
def whole? (cs : List Char) : Option (List Char) :=
  (digits? cs).filter fun ds => ds == ['0'] || ds.head? != some '0'

/-- Reads a number that takes up all of the given characters. -/
def numeral? (cs : List Char) : Option Numeral := do
  let (negative, unsigned) := match cs with
    | '-' :: rest => (true, rest)
    | _ => (false, cs)
  let (mantissa, exponentText) := Text.cutFirst (fun c => c == 'e' || c == 'E') unsigned
  let (wholeText, fractionText) := Text.cutFirst (· == '.') mantissa
  let whole ← whole? wholeText
  let fraction ← match fractionText with
    | none => some none
    | some ds => (digits? ds).map some
  let exponent ← match exponentText with
    | none => some none
    | some ds => (exponent? ds).map some
  return { negative, whole, fraction, exponent }

/-- The characters that numbers are made of. None of them may follow a number. -/
def isNumeralSymbol : Symbol → Bool :=
  Symbol.isChar fun c => c.isDigit || c == '-' || c == '+' || c == '.' || c == 'e' || c == 'E'

/-- The words of the grammar and the constants they stand for. -/
def constant? : (s : List Symbol) → Option (Term × Rest s)
  | .char 'n' :: .char 'u' :: .char 'l' :: .char 'l' :: rest =>
    some (.null, ⟨rest, by simp only [List.length_cons]; omega⟩)
  | .char 't' :: .char 'r' :: .char 'u' :: .char 'e' :: rest =>
    some (.bool true, ⟨rest, by simp only [List.length_cons]; omega⟩)
  | .char 'f' :: .char 'a' :: .char 'l' :: .char 's' :: .char 'e' :: rest =>
    some (.bool false, ⟨rest, by simp only [List.length_cons]; omega⟩)
  | _ => none

/-- A number or a constant at the front of a text. -/
def plain? (s : List Symbol) : Option (Term × Rest s) :=
  match s with
  | [] => none
  | c :: rest =>
    if isNumeralSymbol c then do
      let value ← numeral? ((c :: rest.takeWhile isNumeralSymbol).filterMap Symbol.char?)
      return (.number value,
        ⟨rest.dropWhile isNumeralSymbol,
          Nat.lt_succ_of_le (List.dropWhile_sublist _).length_le⟩)
    else constant? (c :: rest)

/-- Reads the key of a member and the colon after it. -/
def key? (s : List Symbol) : Option (List Piece × Rest s) :=
  match skipSpace s with
  | ⟨.char '"' :: rest, le⟩ => do
    let (key, ⟨r, shorter⟩) ← stringBody rest
    match skipSpace r with
    | ⟨.char ':' :: rest', le'⟩ =>
      return (key, ⟨rest', by simp only [List.length_cons] at le le'; omega⟩)
    | _ => none
  | _ => none

mutual

/-- Reads one value from the front of a text, after any spaces. -/
def term? (s : List Symbol) : Option (Term × Rest s) :=
  match skipSpace s with
  | ⟨[], _⟩ => none
  | ⟨c :: rest, le⟩ =>
    if c = .char '"' then do
      let (pieces, ⟨r, shorter⟩) ← stringBody rest
      return (.string pieces, ⟨r, by simp only [List.length_cons] at le; omega⟩)
    else if c = .char '[' then
      match arrayBody rest with
      | (items, some ⟨r, shorter⟩) =>
        some (.array items, ⟨r, by simp only [List.length_cons] at le; omega⟩)
      | (_, none) => none
    else if c = .char '\x7b' then
      match objectBody rest with
      | (members, some ⟨r, shorter⟩) =>
        some (.object members, ⟨r, by simp only [List.length_cons] at le; omega⟩)
      | (_, none) => none
    else do
      let (value, ⟨r, shorter⟩) ← plain? (c :: rest)
      return (value, ⟨r, by omega⟩)
termination_by (s.length, 0)
decreasing_by all_goals simp only [List.length_cons] at le; apply Prod.Lex.left; omega

/-- Reads an array after its opening bracket: its items as far as they follow the
grammar and, if they do up to its closing bracket, the rest of the text. -/
def arrayBody (s : List Symbol) : List Term × Option (Rest s) :=
  match skipSpace s with
  | ⟨[], _⟩ => ([], none)
  | ⟨c :: rest, le⟩ =>
    if c = .char ']' then ([], some ⟨rest, by simp only [List.length_cons] at le; omega⟩)
    else items s
termination_by (s.length, 2)
decreasing_by apply Prod.Lex.right; omega

/-- Reads the items of an array, of which there is at least one, like `arrayBody`. -/
def items (s : List Symbol) : List Term × Option (Rest s) :=
  match term? s with
  | none => ([], none)
  | some (item, ⟨r, shorter⟩) =>
    match skipSpace r with
    | ⟨[], _⟩ => ([item], none)
    | ⟨c :: rest, le⟩ =>
      if c = .char ']' then
        ([item], some ⟨rest, by simp only [List.length_cons] at le; omega⟩)
      else if c = .char ',' then
        let (later, after) := items rest
        (item :: later,
          after.map fun ⟨r', shorter'⟩ => ⟨r', by simp only [List.length_cons] at le; omega⟩)
      else ([item], none)
termination_by (s.length, 1)
decreasing_by
  · apply Prod.Lex.right; omega
  · simp only [List.length_cons] at le; apply Prod.Lex.left; omega

/-- Reads an object after its opening brace: its members as far as they follow the
grammar and, if they do up to its closing brace, the rest of the text. -/
def objectBody (s : List Symbol) : List (List Piece × Term) × Option (Rest s) :=
  match skipSpace s with
  | ⟨[], _⟩ => ([], none)
  | ⟨c :: rest, le⟩ =>
    if c = .char '\x7d' then ([], some ⟨rest, by simp only [List.length_cons] at le; omega⟩)
    else members s
termination_by (s.length, 2)
decreasing_by apply Prod.Lex.right; omega

/-- Reads the members of an object, of which there is at least one, like `objectBody`. -/
def members (s : List Symbol) : List (List Piece × Term) × Option (Rest s) :=
  match key? s with
  | none => ([], none)
  | some (key, ⟨r, shorter⟩) =>
    match term? r with
    | none => ([], none)
    | some (value, ⟨r', shorter'⟩) =>
      match skipSpace r' with
      | ⟨[], _⟩ => ([(key, value)], none)
      | ⟨c :: rest, le⟩ =>
        if c = .char '\x7d' then
          ([(key, value)], some ⟨rest, by simp only [List.length_cons] at le; omega⟩)
        else if c = .char ',' then
          let (later, after) := members rest
          ((key, value) :: later,
            after.map fun ⟨r'', shorter''⟩ =>
              ⟨r'', by simp only [List.length_cons] at le; omega⟩)
        else ([(key, value)], none)
termination_by (s.length, 1)
decreasing_by
  · apply Prod.Lex.left; omega
  · simp only [List.length_cons] at le; apply Prod.Lex.left; omega

end

/-- The one value that a whole text consists of. -/
def Term.ofSymbols? (s : List Symbol) : Option Term := do
  let (value, ⟨rest, _⟩) ← term? s
  if rest.all isSpace then some value else none

/-- The outermost array or object of a text as far as it follows the grammar. -/
inductive Outline where
  | array (items : List Term)
  | object (members : List (List Piece × Term))
  | other

/-- The outline of a text, and whether the whole text follows the grammar. A text that
is neither an array nor an object has no outline to follow. -/
def Outline.ofSymbols (s : List Symbol) : Outline × Bool :=
  let closes {s : List Symbol} (after : Option (Rest s)) : Bool :=
    after.any fun rest => rest.val.all isSpace
  match (skipSpace s).val with
  | .char '[' :: rest =>
    let (items, after) := arrayBody rest
    (.array items, closes after)
  | .char '\x7b' :: rest =>
    let (members, after) := objectBody rest
    (.object members, closes after)
  | _ => (.other, false)

end Provision.Json

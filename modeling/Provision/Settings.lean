import Provision.Json.Decode
import Provision.Time.Span
import Provision.Toml.Reader

/-! Named settings in a JSON or TOML document, of which some are wanted and all others are
passed over. Settings are read one after the other, in the order of the document, and the
first one that cannot be read decides how reading fails: a document with several faults
has the error of the first. A TOML document has the order of its keys. -/

set_option autoImplicit false

namespace Provision

/-- Why settings cannot be read. -/
inductive SettingsError where
  | malformed
  | duration (error : Duration.SpanError)
deriving DecidableEq, Repr

/-- The value of a setting, as far as any setting has a use for it. -/
inductive Setting where
  | text (value : String)
  | whole (value : Int)
  | other
deriving DecidableEq, Repr

namespace Setting

/-- A duration as people write it. -/
def duration : Setting → Except SettingsError Duration
  | .text value => (Duration.ofText value).mapError .duration
  | _ => .error .malformed

/-- A whole number of 64 bits without a sign. -/
def natural : Setting → Except SettingsError Nat
  | .whole value =>
    if 0 ≤ value ∧ Word.fits 64 value.toNat then .ok value.toNat else .error .malformed
  | _ => .error .malformed

/-- What a JSON term sets. -/
def ofTerm : Json.Term → Setting
  | .string pieces => ((Json.text? pieces).map .text).getD .other
  | .number numeral =>
    match numeral.number? with
    | some (.integer value) => .whole value
    | _ => .other
  | _ => .other

/-- What a TOML value sets. Even in settings that are passed over there has to be a value
for every numeral, and integers have to fit 128 bits, with a sign or without. -/
def ofValue? (value : Toml.Value) : Option Setting :=
  let fits (n : Int) : Bool := Word.fitsSigned 128 n || 0 ≤ n && Word.fits 128 n.toNat
  if value.isReadable fits then
    match value with
    | .scalar (.string content) => some (.text content)
    | .scalar (.integer n) => some (.whole n)
    | _ => some .other
  else none

end Setting

/-- The named settings of a document up to the first place where it cannot be read, and
whether there is no such place. -/
structure Settings where
  members : List (String × Setting)
  complete : Bool
deriving DecidableEq, Repr

namespace Settings

/-- The settings of pairs, of which some may not be readable. -/
def ofPairs (pairs : List (Option (String × Setting))) (complete : Bool) : Settings :=
  ⟨(pairs.takeWhile Option.isSome).filterMap id, complete && pairs.all Option.isSome⟩

/-- The settings in a JSON object, or in an array that lists those of some names in order. -/
def ofJsonText (names : List String) (text : String) : Settings :=
  match Json.Outline.ofSymbols (Text.Symbol.ofString text) with
  | (.object members, closed) =>
    ofPairs (members.map fun (key, term) => (Json.text? key).map (·, .ofTerm term)) closed
  | (.array items, closed) =>
    ⟨names.zip (items.map .ofTerm), closed && items.length ≤ names.length⟩
  | (.other, _) => ⟨[], false⟩

/-- The settings in a TOML document. A document that is not well-formed has none. -/
def ofTomlText (text : String) : Settings :=
  match Toml.readDocument? text with
  | some members =>
    ofPairs (members.map fun (key, value) => (Setting.ofValue? value).map (key, ·)) true
  | none => ⟨[], false⟩

/-- Takes in the settings one after the other. -/
def read {σ : Type} (settings : Settings) (take : σ → String → Setting → Except SettingsError σ)
    (start : σ) : Except SettingsError σ := do
  let state ← settings.members.foldlM (fun state (name, value) => take state name value) start
  if settings.complete then return state else throw .malformed

/-- Sets what must not have been set before. -/
def once {α : Type} (old : Option α) (new : Except SettingsError α) :
    Except SettingsError (Option α) :=
  if old.isSome then .error .malformed else new.map some

end Settings

end Provision

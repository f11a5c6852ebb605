import Provision.Bag.Typed
import Provision.Json.Writer
import Provision.Settings

/-! Settings of a cache: how long values are kept if a store does not say it, and how
many. Settings are read from a bag, where a missing or malformed value leaves the default,
or from a JSON or TOML document, where both settings have to be there. -/

set_option autoImplicit false

namespace Provision

/-- The settings of a cache. A size of zero stands for no limit. -/
structure CacheConfig where
  timeout : Duration
  maxSize : Nat
deriving DecidableEq, Repr

namespace CacheConfig

/-- One minute, and a thousand entries. -/
def default : CacheConfig := ⟨.ofSeconds 60, 1000⟩

/-- The settings in the options of a bag; the timeout counts milliseconds. -/
def ofParams (params : Bag) : CacheConfig where
  timeout := ((params.natural? "options.timeout").map Duration.ofMillis).getD default.timeout
  maxSize := (params.natural? "options.max_size").getD default.maxSize

/-- Settings of which some may still be missing. -/
structure Draft where
  timeout : Option Duration
  maxSize : Option Nat

/-- Takes in one setting of a document. Either setting may be there only once. -/
def Draft.take (draft : Draft) (name : String) (value : Setting) : Except SettingsError Draft := do
  if name = "timeout" then
    return { draft with timeout := ← Settings.once draft.timeout value.duration }
  else if name = "max_size" then
    return { draft with maxSize := ← Settings.once draft.maxSize value.natural }
  else return draft

def ofSettings (settings : Settings) : Except SettingsError CacheConfig := do
  match ← settings.read Draft.take ⟨none, none⟩ with
  | ⟨some timeout, some maxSize⟩ => return ⟨timeout, maxSize⟩
  | _ => throw .malformed

/-- The settings in a JSON object, or in an array of the timeout and the size. -/
def ofJsonText (text : String) : Except SettingsError CacheConfig :=
  ofSettings (.ofJsonText ["timeout", "max_size"] text)

def ofTomlText (text : String) : Except SettingsError CacheConfig :=
  ofSettings (.ofTomlText text)

def jsonText (config : CacheConfig) : String :=
  "\x7b\"timeout\":" ++ Json.stringText config.timeout.text ++ ",\"max_size\":" ++
    toString config.maxSize ++ "\x7d"

end CacheConfig

end Provision

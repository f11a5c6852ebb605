import Provision.Bag.Typed
import Provision.Json.Writer
import Provision.Settings

/-! Settings of a lock: how long to wait between two attempts to acquire a lock. The
setting is read from a bag, where a missing or malformed value leaves the default, or from
a JSON or TOML document, where it has to be there. -/

set_option autoImplicit false

namespace Provision

structure LockConfig where
  retryInterval : Duration
deriving DecidableEq, Repr

namespace LockConfig

/-- A tenth of a second. -/
def default : LockConfig := ⟨.ofMillis 100⟩

/-- The setting in the options of a bag, which counts milliseconds. -/
def ofParams (params : Bag) : LockConfig where
  retryInterval :=
    ((params.natural? "options.retry_timeout").map Duration.ofMillis).getD default.retryInterval

/-- The setting of a document, in which it may be there only once. -/
def ofSettings (settings : Settings) : Except SettingsError LockConfig := do
  let take (old : Option Duration) (name : String) (value : Setting) :=
    if name = "retry_interval" then Settings.once old value.duration else .ok old
  match ← settings.read take none with
  | some retryInterval => return ⟨retryInterval⟩
  | none => throw .malformed

/-- The setting in a JSON object, or in an array of one item. -/
def ofJsonText (text : String) : Except SettingsError LockConfig :=
  ofSettings (.ofJsonText ["retry_interval"] text)

/-- The setting in a TOML document. -/
def ofTomlText (text : String) : Except SettingsError LockConfig :=
  ofSettings (.ofTomlText text)

/-- The setting as a JSON object. -/
def jsonText (config : LockConfig) : String :=
  "\x7b\"retry_interval\":" ++ Json.stringText config.retryInterval.text ++ "\x7d"

end LockConfig

end Provision

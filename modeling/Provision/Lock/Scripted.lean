import Provision.Lock.Basic

/-! A lock table whose answers are laid down in advance, whatever the key: each attempt
gives the next answer, and every attempt after the last one succeeds. -/

set_option autoImplicit false

namespace Provision

/-- The answers still to be given, and the failure of every release, if there is one. -/
structure ScriptedLock where
  answers : List (Except LockError Bool)
  releaseError : Option LockError

namespace ScriptedLock

/-- Gives the next answer. -/
def tryAcquire : LockStep ScriptedLock Bool := fun script =>
  match script.answers with
  | [] => (.ok true, script)
  | answer :: rest => (answer, { script with answers := rest })

/-- Succeeds unless releases are set to fail. -/
def release : LockStep ScriptedLock Unit := fun script =>
  match script.releaseError with
  | none => (.ok (), script)
  | some error => (.error error, script)

/-- The operations of a scripted lock table. -/
def asLock : Lock ScriptedLock where
  tryAcquire _ _ _ := tryAcquire
  release _ := release

end ScriptedLock

end Provision

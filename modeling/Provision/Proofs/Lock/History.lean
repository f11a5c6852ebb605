import Provision.Lock.Memory
import Provision.Proofs.Run

/-! Histories of a lock table in memory. A history lists what was asked, when, and what
was answered; a key is held as its latest acquisition or release says. The table is
seen through the records whose time is still to come, since all others are free to be
dropped by an attempt on any key. -/

set_option autoImplicit false

namespace Provision

inductive LockRequest where
  | tryAcquire (key : String) (ttl : Duration)
  | release (key : String)
  | isLocked (key : String)

def LockRequest.key : LockRequest → String
  | .tryAcquire key _ | .release key | .isLocked key => key

structure LockEvent where
  now : Instant
  request : LockRequest

inductive LockAnswer where
  | tried (result : Except LockError Bool)
  | released (result : Except LockError Unit)
  | locked (held : Bool)

/-- What an event that was answered did to a key. -/
inductive LockChange where
  | acquired (since : Instant) (ttl : Duration)
  | released

/-- The end of the time that a key is taken for, if it is taken. -/
def LockChange.lease : LockChange → Option Expiration
  | .acquired since ttl => some (.after since ttl)
  | .released => none

abbrev LockHistory := List (LockEvent × LockAnswer)

namespace LockHistory

/-- The acquisition or the release of a key that one event was. -/
def changeOf? (key : String) : LockEvent × LockAnswer → Option LockChange
  | (⟨now, .tryAcquire tried ttl⟩, .tried (.ok true)) =>
    if tried = key then some (.acquired now ttl) else none
  | (⟨_, .release freed⟩, .released (.ok ())) => if freed = key then some .released else none
  | _ => none

/-- The latest among the acquisitions and the releases of a key. -/
def latest? (key : String) (history : LockHistory) : Option LockChange :=
  (history.filterMap (changeOf? key)).getLast?

/-- A key is held if its latest change is an acquisition whose end lies beyond the range
of the clock or is still to come. -/
def HeldAt (key : String) (now : Instant) (history : LockHistory) : Prop :=
  match latest? key history with
  | some (.acquired since ttl) =>
    Instant.bound ≤ since.nanos + ttl.nanos ∨ now.nanos < since.nanos + ttl.nanos
  | _ => False

theorem latest?_append (key : String) (history : LockHistory) (entry : LockEvent × LockAnswer) :
    latest? key (history ++ [entry]) = (changeOf? key entry).or (latest? key history) := by
  unfold latest?
  rw [List.filterMap_append, List.getLast?_append]
  cases changed : changeOf? key entry <;> simp [changed]

theorem heldAt_iff {key : String} {now : Instant} {history : LockHistory} :
    HeldAt key now history ↔
      (((latest? key history).bind LockChange.lease).filter (·.isAhead now)).isSome = true := by
  unfold HeldAt
  cases latest? key history with
  | none => simp
  | some change =>
    cases change with
    | released => simp [LockChange.lease]
    | acquired since ttl =>
      simp only [Option.bind_some, LockChange.lease, Expiration.after, Instant.add?]
      split <;> simp [Option.filter, Expiration.isAhead, Instant.lt_def] <;> omega

instance (key : String) (now : Instant) (history : LockHistory) :
    Decidable (HeldAt key now history) :=
  decidable_of_iff _ heldAt_iff.symm

end LockHistory

namespace MemoryLock

def serve (table : MemoryLock) (event : LockEvent) : LockAnswer × MemoryLock :=
  match event.request with
  | .tryAcquire key ttl => (tryAcquire key ttl event.now table).map .tried id
  | .release key => (release key table).map .released id
  | .isLocked key => (.locked (table.isLocked key event.now), table)

def after (table : MemoryLock) (events : List LockEvent) : MemoryLock :=
  (runEvents serve table events).2

def history (table : MemoryLock) (events : List LockEvent) : LockHistory :=
  events.zip (runEvents serve table events).1

theorem after_cons (table : MemoryLock) (event : LockEvent) (rest : List LockEvent) :
    table.after (event :: rest) = (table.serve event).2.after rest := rfl

theorem history_cons (table : MemoryLock) (event : LockEvent) (rest : List LockEvent) :
    table.history (event :: rest) =
      (event, (table.serve event).1) :: (table.serve event).2.history rest := rfl

/-- The end of the time that a key is taken for, as long as it is still to come. -/
def leaseAt (table : MemoryLock) (key : String) (now : Instant) : Option Expiration :=
  (table.records[key]?).filter (·.isAhead now)

end MemoryLock

theorem Expiration.isAhead_mono {s t : Instant} {ending : Expiration} (order : s ≤ t)
    (ahead : ending.isAhead t = true) : ending.isAhead s = true := by
  cases ending with
  | none => rfl
  | some ending =>
    simp only [isAhead, decide_eq_true_eq, Instant.lt_def] at ahead ⊢
    exact Nat.lt_of_le_of_lt order ahead

namespace MemoryLock

variable {table : MemoryLock} {key : String} {now : Instant} {ttl : Duration}

theorem getElem?_held : (table.held now).records[key]? = table.leaseAt key now :=
  Std.ExtTreeMap.getElem?_filter'

theorem contains_held : (table.held now).records.contains key = (table.leaseAt key now).isSome := by
  rw [Std.ExtTreeMap.contains_eq_isSome_getElem?, getElem?_held]

theorem isLocked_eq : table.isLocked key now = (table.leaseAt key now).isSome := by
  unfold isLocked leaseAt
  cases table.records[key]? with
  | none => rfl
  | some ending => cases ahead : ending.isAhead now <;> simp [Option.filter, ahead]

/-- Dropping the records of free keys is not seen from any later instant. -/
theorem leaseAt_held {later : Instant} (order : now ≤ later) :
    (table.held now).leaseAt key later = table.leaseAt key later := by
  rw [leaseAt, getElem?_held, leaseAt, leaseAt, Option.filter_filter]
  congr 1
  funext ending
  cases ahead : ending.isAhead later with
  | false => simp
  | true => simp [Expiration.isAhead_mono order ahead]

theorem tryAcquire_answer (nonempty : key ≠ "") :
    (tryAcquire key ttl now table).1 = .ok (table.leaseAt key now).isNone := by
  simp only [tryAcquire, nonempty, if_false, contains_held]
  cases table.leaseAt key now <;> rfl

theorem tryAcquire_table (nonempty : key ≠ "") :
    (tryAcquire key ttl now table).2 =
      if (table.leaseAt key now).isNone then
        ⟨(table.held now).records.insert key (.after now ttl)⟩
      else table.held now := by
  simp only [tryAcquire, nonempty, if_false, contains_held]
  cases table.leaseAt key now <;> rfl

/-- An event changes what is seen of a key exactly if it is an acquisition or a release
of that key, and then to what that change says. -/
theorem leaseAt_serve (event : LockEvent) {later : Instant} (order : event.now ≤ later) :
    (table.serve event).2.leaseAt key later =
      match LockHistory.changeOf? key (event, (table.serve event).1) with
      | some change => change.lease.filter (·.isAhead later)
      | none => table.leaseAt key later := by
  obtain ⟨now, request⟩ := event
  cases request with
  | tryAcquire tried ttl =>
    by_cases blank : tried = ""
    · simp [serve, tryAcquire, blank, LockHistory.changeOf?]
    · simp only [serve, Prod.map, id, tryAcquire_answer blank, tryAcquire_table blank]
      cases lease : table.leaseAt tried now with
      | some ending => simpa [LockHistory.changeOf?] using leaseAt_held order
      | none =>
        by_cases same : tried = key
        · simp [LockHistory.changeOf?, same, LockChange.lease, leaseAt]
        · have others : leaseAt ⟨(table.held now).records.insert tried (.after now ttl)⟩ key later =
              (table.held now).leaseAt key later := by
            simp [leaseAt, Std.ExtTreeMap.getElem?_insert, same]
          simpa [LockHistory.changeOf?, same] using others.trans (leaseAt_held order)
  | release freed =>
    by_cases blank : freed = ""
    · simp [serve, release, blank, LockHistory.changeOf?]
    · by_cases same : freed = key
      · subst same
        simp [serve, release, blank, LockHistory.changeOf?, leaseAt, LockChange.lease]
      · simp [serve, release, blank, LockHistory.changeOf?, leaseAt, same,
          Std.ExtTreeMap.getElem?_erase]
  | isLocked asked => rfl

end MemoryLock

end Provision

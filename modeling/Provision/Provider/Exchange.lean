import Provision.Provider.Memory

/-! Several named providers in memory side by side, with a record of the calls made to
them. A call can be set to fail: it is then recorded and reaches no provider. -/

set_option autoImplicit false

namespace Provision

/-- What can be asked of a provider. -/
inductive ProviderMethod where
  | register
  | resolveOne
  | resolveAll
deriving DecidableEq, Repr

/-- A call that was made. -/
structure ProviderCall where
  provider : String
  method : ProviderMethod
  correlation : String
  key : String
deriving DecidableEq, Repr

/-- A failure of the calls of a method to a provider, for one key or for all. -/
structure Fault where
  provider : String
  method : ProviderMethod
  key : Option String
  error : ProviderError
deriving DecidableEq, Repr

/-- Whether a fault makes a call fail. -/
def Fault.appliesTo (fault : Fault) (call : ProviderCall) : Bool :=
  fault.provider == call.provider && fault.method == call.method &&
    (fault.key.isNone || fault.key == some call.key)

/-- Named providers, the faults set for them, and the calls made so far, the latest last. -/
structure Exchange (kind : ParamsKind) where
  members : Std.ExtTreeMap String (MemoryProvider kind)
  faults : List Fault
  calls : List ProviderCall

namespace Exchange

variable {kind : ParamsKind}

def empty : Exchange kind := ⟨∅, [], []⟩

/-- The member of a name; one that nothing was done with yet is empty. -/
def member (exchange : Exchange kind) (name : String) : MemoryProvider kind :=
  (exchange.members[name]?).getD MemoryProvider.empty

def setMember (exchange : Exchange kind) (name : String) (provider : MemoryProvider kind) :
    Exchange kind :=
  { exchange with members := exchange.members.insert name provider }

/-- Adds faults after those that are set. Of the faults for a call the earliest counts. -/
def addFaults (exchange : Exchange kind) (faults : List Fault) : Exchange kind :=
  { exchange with faults := exchange.faults ++ faults }

/-- Records a call, and fails if a fault is set for it. -/
def record (call : ProviderCall) : Action (Exchange kind) ProviderError Unit := do
  modify fun exchange => { exchange with calls := exchange.calls ++ [call] }
  match (← get).faults.find? (·.appliesTo call) with
  | some fault => throw fault.error
  | none => pure ()

/-- The member of a name as a provider whose calls are recorded. -/
def provider (name : String) : Provider (Exchange kind) kind where
  register correlation key params := do
    record ⟨name, .register, correlation, key⟩
    modify fun exchange => exchange.setMember name ((exchange.member name).register key params)
    return params
  resolveOne correlation key := do
    record ⟨name, .resolveOne, correlation, key⟩
    return ((← get).member name).resolveOne key
  resolveAll correlation key := do
    record ⟨name, .resolveAll, correlation, key⟩
    return ((← get).member name).resolveAll key

/-- The calls made so far, and the exchange without a record of them. -/
def takeCalls (exchange : Exchange kind) : List ProviderCall × Exchange kind :=
  (exchange.calls, { exchange with calls := [] })

end Exchange

end Provision

import Provision.Bag.Line
import Provision.Provider.Basic

/-! A provider that keeps what is registered with it: for each key the parameters in the
order of their registration, repeated ones included. It can be filled from a
configuration, in which a key without a point has its parameters on one line and a section
has them as its keys. -/

set_option autoImplicit false

namespace Provision

/-- The parameters registered under each key. -/
structure MemoryProvider (kind : ParamsKind) where
  items : Std.ExtTreeMap String (List (Params kind))

namespace MemoryProvider

variable {kind : ParamsKind}

def empty : MemoryProvider kind := ⟨∅⟩

/-- All parameters under a key, the earliest first. -/
def resolveAll (provider : MemoryProvider kind) (key : String) : List (Params kind) :=
  (provider.items[key]?).getD []

/-- The earliest parameters under a key. -/
def resolveOne (provider : MemoryProvider kind) (key : String) : Option (Params kind) :=
  (provider.resolveAll key).head?

/-- Adds parameters under a key after the earlier ones. -/
def register (provider : MemoryProvider kind) (key : String) (params : Params kind) :
    MemoryProvider kind :=
  ⟨provider.items.insert key (provider.resolveAll key ++ [params])⟩

theorem resolveAll_register (provider : MemoryProvider kind) (key k : String)
    (params : Params kind) :
    (provider.register key params).resolveAll k =
      if key = k then provider.resolveAll k ++ [params] else provider.resolveAll k := by
  by_cases same : key = k
  · subst same
    simp [register, resolveAll]
  · simp [register, resolveAll, Std.ExtTreeMap.getElem?_insert, same]

/-- The number of keys with parameters. -/
def size (provider : MemoryProvider kind) : Nat :=
  provider.items.size

def isEmpty (provider : MemoryProvider kind) : Bool :=
  provider.items.isEmpty

/-- The keys and parameters of a configuration: first the keys without a point, then
the sections. -/
def entriesOfConfig (kind : ParamsKind) (config : Bag) : List (String × Params kind) :=
  let plain := config.toList.filter fun (key, _) => !key.toList.contains '.'
  plain.map (fun (key, line) => (key, ⟨Bag.ofLine line⟩)) ++
    config.sectionNames.map fun name => (name, ⟨config.sectionAt name⟩)

/-- The provider that a configuration describes. -/
def ofConfig (config : Bag) : MemoryProvider kind :=
  (entriesOfConfig kind config).foldl (fun provider entry => provider.register entry.1 entry.2)
    empty

/-- The provider as one whose calls act on itself. None of them fails. -/
def asProvider : Provider (MemoryProvider kind) kind where
  register _ key params := do
    modify fun provider => provider.register key params
    return params
  resolveOne _ key := return (← get).resolveOne key
  resolveAll _ key := return (← get).resolveAll key

end MemoryProvider

end Provision

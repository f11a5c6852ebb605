import Provision.Bag.Section
import Provision.Bag.Typed
import Provision.Descriptor

/-! A bag of parameters is of one of two kinds. Each kind reserves one key: a bag with a
value under it is indirect, which means that its real values have to be looked up under
that value. Configurations hold bags of a kind in two sections, a plural one with
subsections and a singular one. -/

set_option autoImplicit false

namespace Provision

inductive ParamsKind where
  | connection
  | credential
deriving DecidableEq, Repr

namespace ParamsKind

/-- The section with a single bag of a kind. -/
def singleSection : ParamsKind → String
  | .connection => "connection"
  | .credential => "credential"

/-- The section whose subsections are bags of a kind. -/
def manySection : ParamsKind → String
  | .connection => "connections"
  | .credential => "credentials"

/-- The key whose value says where to look up the real values. -/
def indirectionKey : ParamsKind → String
  | .connection => "discovery_key"
  | .credential => "store_key"

/-- The locator of the providers that look up bags of a kind. -/
def providerLocator : ParamsKind → Descriptor
  | .connection => ⟨"*", "discovery", "*", "*", "*"⟩
  | .credential => ⟨"*", "credential-store", "*", "*", "*"⟩

end ParamsKind

/-- A bag that is used as parameters of a kind. -/
structure Params (kind : ParamsKind) where
  bag : Bag
deriving DecidableEq

namespace Params

variable {kind : ParamsKind}

/-- The key to look the real values up under, if the bag is indirect. An empty value
does not make it indirect. -/
def indirection? (params : Params kind) : Option String :=
  params.bag.nonEmpty? kind.indirectionKey

def isIndirect (params : Params kind) : Bool :=
  params.indirection?.isSome

/-- Gives a key a value and answers with the one that it takes the place of. -/
def replace (params : Params kind) (key value : String) : Option String × Params kind :=
  let (earlier, bag) := params.bag.replace key value
  (earlier, ⟨bag⟩)

/-- Gives a key a value, whatever it had before. -/
def put (params : Params kind) (key value : String) : Params kind :=
  ⟨params.bag.put key value⟩

/-- Every bag of a kind in a configuration. Once the plural section has any key, the
singular one does not count, even if the plural one has no subsections. -/
def manyFromConfig (kind : ParamsKind) (config : Bag) : List (Params kind) :=
  let many := config.sectionAt kind.manySection
  if many.isEmpty then
    let single := config.sectionAt kind.singleSection
    if single.isEmpty then [] else [⟨single⟩]
  else many.sectionNames.map fun name => ⟨many.sectionAt name⟩

/-- The first bag of a kind in a configuration. -/
def fromConfig? (kind : ParamsKind) (config : Bag) : Option (Params kind) :=
  (manyFromConfig kind config).head?

end Params

end Provision

import Provision.Provider.Basic

/-! A resolver holds parameters in an order and turns them into usable ones. Direct
parameters are usable as they are; indirect ones are looked up with every provider whose
descriptor matches the locator of the resolver, in the order in which the providers were
put in. The first failure of a provider ends a call. -/

set_option autoImplicit false

namespace Provision

/-- Why a resolver does not answer. -/
inductive ResolveError where
  | missingProvider (locator : Descriptor)
  | provider (error : ProviderError)
deriving DecidableEq, Repr

def ResolveError.message : ResolveError → String
  | .missingProvider locator => "no provider found for " ++ locator.text
  | .provider error => error.message

structure Resolver (σ : Type) (kind : ParamsKind) where
  items : List (Params kind)
  references : Option (References (Component σ))
  locator : Descriptor

namespace Resolver

variable {σ : Type} {kind : ParamsKind}

/-- A resolver without parameters and references. -/
def empty : Resolver σ kind := ⟨[], none, kind.providerLocator⟩

/-- Adds parameters after those that are held. -/
def add (resolver : Resolver σ kind) (params : Params kind) : Resolver σ kind :=
  { resolver with items := resolver.items ++ [params] }

/-- Adds every bag of the kind in a configuration. -/
def configure (resolver : Resolver σ kind) (config : Bag) : Resolver σ kind :=
  { resolver with items := resolver.items ++ Params.manyFromConfig kind config }

/-- Replaces the references. -/
def withReferences (resolver : Resolver σ kind) (references : References (Component σ)) :
    Resolver σ kind :=
  { resolver with references := some references }

/-- Replaces the locator of providers. -/
def withLocator (resolver : Resolver σ kind) (locator : Descriptor) : Resolver σ kind :=
  { resolver with locator := locator }

/-- A resolver for a configuration. -/
def ofConfig (config : Bag) (references : Option (References (Component σ))) :
    Resolver σ kind :=
  { (empty : Resolver σ kind).configure config with references := references }

/-- The parameters that are usable as they are, in order. -/
def direct (resolver : Resolver σ kind) : List (Params kind) :=
  resolver.items.filter fun params => !params.isIndirect

/-- The keys of the parameters that have to be looked up, in order. -/
def lookupKeys (resolver : Resolver σ kind) : List String :=
  resolver.items.filterMap Params.indirection?

/-- The providers that look up parameters, in order. -/
def providers (resolver : Resolver σ kind) : List (Provider σ kind) :=
  match resolver.references with
  | none => []
  | some references => references.getOptional (.provider kind) resolver.locator

/-- The providers that look up parameters, of which there has to be one. -/
def requireProviders (resolver : Resolver σ kind) :
    Action σ ResolveError (List (Provider σ kind)) :=
  if resolver.providers.isEmpty then throw (.missingProvider resolver.locator)
  else pure resolver.providers

/-- A call to a provider whose failure is the failure of the resolver. -/
def call {α : Type} (action : Action σ ProviderError α) : Action σ ResolveError α :=
  ExceptT.adapt ResolveError.provider action

/-- Asks providers one after the other until one of them answers. -/
def askOne (correlation key : String) :
    List (Provider σ kind) → Action σ ResolveError (Option (Params kind))
  | [] => pure none
  | provider :: rest => do
    match ← call (provider.resolveOne correlation key) with
    | some found => return some found
    | none => askOne correlation key rest

/-- Looks up keys one after the other until there is an answer. -/
def firstOf (resolver : Resolver σ kind) (correlation : String) :
    List String → Action σ ResolveError (Option (Params kind))
  | [] => pure none
  | key :: rest => do
    match ← askOne correlation key (← resolver.requireProviders) with
    | some found => return some found
    | none => resolver.firstOf correlation rest

/-- The first usable parameters: direct ones if there are any, without asking a
provider, and else the first that are found. -/
def resolve (resolver : Resolver σ kind) (correlation : String) :
    Action σ ResolveError (Option (Params kind)) :=
  match resolver.direct with
  | params :: _ => return some params
  | [] => resolver.firstOf correlation resolver.lookupKeys

/-- Asks every provider and joins the answers. -/
def askAll (correlation key : String) :
    List (Provider σ kind) → Action σ ResolveError (List (Params kind))
  | [] => pure []
  | provider :: rest => do
    let found ← call (provider.resolveAll correlation key)
    return found ++ (← askAll correlation key rest)

/-- Looks up every key and joins the answers. -/
def allOf (resolver : Resolver σ kind) (correlation : String) :
    List String → Action σ ResolveError (List (Params kind))
  | [] => pure []
  | key :: rest => do
    let found ← askAll correlation key (← resolver.requireProviders)
    return found ++ (← resolver.allOf correlation rest)

/-- All usable parameters: the direct ones, and then everything that is found. -/
def resolveAll (resolver : Resolver σ kind) (correlation : String) :
    Action σ ResolveError (List (Params kind)) := do
  return resolver.direct ++ (← resolver.allOf correlation resolver.lookupKeys)

/-- Registers parameters with providers one after the other. -/
def registerWith (correlation key : String) (params : Params kind) :
    List (Provider σ kind) → Action σ ResolveError Unit
  | [] => pure ()
  | provider :: rest => do
    let _ ← call (provider.register correlation key params)
    registerWith correlation key params rest

/-- Registers indirect parameters with every provider, and keeps them once the last one has
them. Direct parameters are neither registered nor kept. The answer says which it was. What
was done before a failure stays done, to the resolver as to the providers. -/
def register (correlation : String) (params : Params kind) :
    Action (Resolver σ kind × σ) ResolveError Bool :=
  match params.indirection? with
  | none => return false
  | some key => do
    let (resolver, _) ← get
    Action.beside do registerWith correlation key params (← resolver.requireProviders)
    modify fun (resolver, state) => (resolver.add params, state)
    return true

end Resolver

end Provision

import Provision.Params.Basic
import Provision.References

/-! A provider looks up and registers parameters under keys. What it answers may depend on
a state that its calls change, and a call that fails may have changed the state too. Each
call carries a correlation id, which says on whose behalf it is made. -/

set_option autoImplicit false

namespace Provision

/-- Why a provider does not answer. -/
inductive ProviderError where
  | unavailable (reason : String)
  | backend (reason : String)
deriving DecidableEq, Repr

def ProviderError.message : ProviderError → String
  | .unavailable reason => "provider unavailable: " ++ reason
  | .backend reason => "provider backend error: " ++ reason

/-- An action on a state that gives a result or fails. -/
abbrev Action (σ ε α : Type) := ExceptT ε (StateM σ) α

/-- An action on a state that stands beside something else, which it leaves alone. -/
def Action.beside {ρ σ ε α : Type} (action : Action σ ε α) : Action (ρ × σ) ε α :=
  ExceptT.mk fun (other, state) =>
    let (answer, state) := action.run.run state
    (answer, other, state)

structure Provider (σ : Type) (kind : ParamsKind) where
  register : (correlation key : String) → Params kind → Action σ ProviderError (Params kind)
  resolveOne : (correlation key : String) → Action σ ProviderError (Option (Params kind))
  resolveAll : (correlation key : String) → Action σ ProviderError (List (Params kind))

/-- A provider that knows no parameters and keeps none. -/
def Provider.blank (σ : Type) (kind : ParamsKind) : Provider σ kind where
  register _ _ params := pure params
  resolveOne _ _ := pure none
  resolveAll _ _ := pure []

/-- The types of components that resolvers share: providers of either kind, and texts. -/
inductive ComponentType where
  | provider (kind : ParamsKind)
  | text
deriving DecidableEq, Repr

/-- The components of each type. -/
abbrev Component (σ : Type) : ComponentType → Type
  | .provider kind => Provider σ kind
  | .text => String

end Provision

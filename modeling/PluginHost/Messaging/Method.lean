import PluginHost.Failure

set_option autoImplicit false

namespace PluginHost

/-- A method with its providers, each a function of the argument. -/
structure Method (β μ : Type) where
  name : String
  providers : List (Int × (μ → β))

namespace Method

variable {β μ : Type}

def new (name : String) : Method β μ := ⟨name, []⟩

/-- Puts a provider before the first one of a lower priority. -/
def insertProvider (priority : Int) (provider : μ → β) :
    List (Int × (μ → β)) → List (Int × (μ → β))
  | [] => [(priority, provider)]
  | p :: rest =>
    if p.1 < priority then (priority, provider) :: p :: rest
    else p :: insertProvider priority provider rest

def register (m : Method β μ) (priority : Int) (provider : μ → β) : Method β μ :=
  { m with providers := insertProvider priority provider m.providers }

/-- What each provider does with an argument. -/
def attempts (m : Method β μ) (argument : μ) : List β := m.providers.map fun p => p.2 argument

def count (m : Method β μ) : Nat := m.providers.length

/-- How a method with a number of providers describes itself. -/
def description (name : String) (providers : Nat) : String :=
  "Method \x7b decl: \"" ++ name ++ "\", providers: " ++ toString providers ++ " \x7d"

end Method

end PluginHost

import Formulary.Config
import Formulary.Suggestion.Endpoint
import Formulary.Suggestion.Supply

/-!
What the settings say about suggestions: where they come from, and how many queries are kept. Without
an endpoint the candidates are the names of the scope, the constants and the functions.
-/

namespace Formulary.Config

/-- The names in order, each of them once. -/
def sortedNames (names : List String) : List String :=
  (names.mergeSort fun a b => decide (a ≤ b)).eraseDups

/-- All names that a formula can use. -/
def knownNames (c : Config) : List String :=
  sortedNames (c.scope.map Prod.fst ++ Constant.all.map Constant.name ++ Function.all.map Function.name)

def endpoint? (c : Config) : Option Endpoint :=
  c.endpoint.map fun url => { url, timeout := .float c.timeout }

/-- The source of suggestions; `reply` is what the endpoint replies to a query. -/
def supply (c : Config) (reply : String → Reply) : Supply :=
  match c.endpoint with
  | some _ => { answer := fun q => (reply q).answer }
  | none => { answer := Suggestion.offlineAnswer (c.knownNames.map fun name => { name }) }

def provider (c : Config) : Except CapacityError Provider := do
  return { cache := ← Cache.ofCapacity c.cacheSize }

/-- The requests sent so far to the endpoint, if there is one. -/
def requests (c : Config) (s : Supply) : List Request :=
  match c.endpoint? with
  | some e => s.calls.map e.request
  | none => []

end Formulary.Config

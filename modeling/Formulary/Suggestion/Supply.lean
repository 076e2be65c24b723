import Formulary.Suggestion.Provider

/-!
A supply is a source as a run meets it: what it answers at the moment, which calls lapse, which queries
it holds back, and which calls are over. Advancing a provider does all that can be done without waiting
for a query that is held back: calls go out and come back in the order in which the loads were begun.
-/

namespace Formulary

structure Supply where
  answer : String → Answer
  /-- The queries that get no answer, as their calls lapse. -/
  lapse? : String → Option Lapse := fun _ => none
  /-- The queries whose answers are held back. -/
  withheld : List String := []
  /-- The queries whose calls are over. -/
  calls : List String := []

namespace Supply

def ending (s : Supply) (query : String) : Ending :=
  (s.lapse? query).elim (.ok (s.answer query)) .error

/-- Holds back the answers to a query. -/
def withhold (s : Supply) (query : String) : Supply := { s with withheld := query :: s.withheld }

/-- The call of a query is over. If nobody is told that, the query is held back from then on. -/
def called (s : Supply) (query : String) : Supply :=
  let s' := { s with calls := s.calls ++ [query] }
  if s.lapse? query = some .unreported then s'.withhold query else s'

def release (s : Supply) (query : String) : Supply :=
  { s with withheld := s.withheld.filter (· ≠ query) }

def respond (s : Supply) (query : String) (answer : Answer) : Supply :=
  { s with
    answer := fun q => if q = query then answer else s.answer q
    lapse? := fun q => if q = query then none else s.lapse? q }

end Supply

namespace Provider

/-- The call of a load ends, unless its query is held back. -/
def exchange (state : Supply × Provider) (load : Load) : Noted (Supply × Provider) :=
  let (s, p) := state
  match load.stage with
  | .calling =>
    if load.key ∈ s.withheld then pure (s, p)
    else do return (s.called load.key, ← p.conclude load.id (s.ending load.key))
  | _ => pure (s, p)

/-- Does all that can be done without an answer that is held back. -/
def advance (s : Supply) (p : Provider) : Noted (Supply × Provider) := do
  let p ← Noted.fold call p (p.loads.map Load.id)
  let (s, p) ← Noted.fold exchange (s, p) p.loads
  return (s, (p.loads.map Load.id).foldl settle p)

end Provider

end Formulary

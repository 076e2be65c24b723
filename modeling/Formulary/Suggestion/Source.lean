import Formulary.Suggestion.Cache
import Formulary.Text.Case

/-!
Sources of suggestions. A source answers a query with a payload or fails in some way; every answer
has one outcome for those who asked: candidates, or a failure. Without an endpoint the source is a
fixed list of candidates, searched for names that start with the query in any case.
-/

namespace Formulary

/-- What a source does with a query. -/
inductive Answer where
  | payload (v : Json)
  /-- The answer cannot be read; it is `kind` instead of a list. -/
  | malformed (kind : String)
  | failure (status : Option Int) (detail : Option String)
  /-- The source broke down, with an exception of some class that is handed on to whoever waits. -/
  | breakdown (kind message : String)

/-- Why nobody gets an answer to a call that is over. -/
inductive Lapse where
  /-- All that waits for the call is broken off, by an exception that is no failure. -/
  | brokenOff
  /-- The end of the call is reported to nobody. -/
  | unreported
deriving DecidableEq, Repr

/-- How a call of a source ends. -/
abbrev Ending := Except Lapse Answer

/-- An exception that ends a call: its class, by module and name, and what is known of it. -/
structure SourceException where
  origin : String
  kind : String
  /-- The text of it, unless another exception comes of writing that. -/
  text : Option String
  /-- What it brings along, if its class is derived from the one that ends an iteration. -/
  brought : Option Json := none

/-- The exception by which a future is cancelled. -/
def SourceException.Cancels (e : SourceException) : Prop :=
  e.origin = "concurrent.futures._base" ∧ e.kind = "CancelledError"

/-- The exception that cannot be put into a future. -/
def SourceException.Sticks (e : SourceException) : Prop :=
  e.origin = "builtins" ∧ e.kind = "StopIteration"

instance (e : SourceException) : Decidable e.Cancels := inferInstanceAs (Decidable (_ ∧ _))

instance (e : SourceException) : Decidable e.Sticks := inferInstanceAs (Decidable (_ ∧ _))

/-- A call is waited for by a future, which takes every other exception as it is. One that ends an
iteration then counts as the return of what it brings along, and any other one is described by its class
and text. -/
def SourceException.ending (e : SourceException) : Ending :=
  if e.Cancels then .error .brokenOff
  else if e.Sticks then .error .unreported
  else
    match e.brought, e.text with
    | some v, _ => .ok (.payload v)
    | none, some text => .ok (.breakdown e.kind text)
    | none, none => .error .brokenOff

/-- What comes of a query in the end. -/
abbrev Outcome := Except FetchFailure (List Operand)

namespace Answer

/-- The outcome of an answer to a query: an answer that is no list counts as the empty list, and one
whose reading breaks off as a failure. -/
def outcome (query : String) : Answer → Noted Outcome
  | payload v =>
    match Suggestion.ofPayload query v with
    | .ok candidates =>
      match Suggestion.breakOff? v with
      | none => Except.ok <$> candidates
      | some (front, fault) => do
        let _ ← Suggestion.ofItems front
        return .error (.ofBreakdown query fault.family fault.message)
    | .error e => ⟨.ok [], [.malformed e]⟩
  | malformed kind => ⟨.ok [], [.malformed ⟨query, kind⟩]⟩
  | failure status detail => pure (.error ⟨query, status, detail⟩)
  | breakdown kind message => pure (.error (.ofBreakdown query kind message))

end Answer

namespace Suggestion

/-- The candidates whose name starts with the query, both in lower case. -/
def offlineMatches (candidates : List Operand) (query : String) : List Operand :=
  let start := (Text.lower query).toList
  candidates.filter fun c => start.isPrefixOf (Text.lower c.name).toList

def offlineAnswer (candidates : List Operand) (query : String) : Answer :=
  .payload (.arr ((offlineMatches candidates query).map Operand.toItem))

end Suggestion

end Formulary

import Formulary.Text.Quoted

/-!
The failures a user can meet, each with a summary and a detail. A failure reads as its summary, and
its detail follows when there is one that is not empty.
-/

namespace Formulary

def withDetail (summary : String) (detail : Option String) : String :=
  match detail with
  | some d => if d.isEmpty then summary else s!"{summary}: {d}"
  | none => summary

/-- A formula has no value: the formula as it is shown, and the cause. -/
structure EvaluationFailure where
  expression : String
  detail : String
deriving DecidableEq, Repr

namespace EvaluationFailure

def summary : String := "Error calculating formula"

def message (e : EvaluationFailure) : String := withDetail summary (some e.detail)

end EvaluationFailure

/-- A source of suggestions did not answer a query: the status of its reply, if there was one, and
what is known besides. -/
structure FetchFailure where
  query : String
  status : Option Int := none
  detail : Option String := none
deriving DecidableEq, Repr

namespace FetchFailure

/-- The failure of a query whose answer breaks off with a fault of some kind. -/
def ofBreakdown (query kind message : String) : FetchFailure :=
  { query, detail := some s!"{kind}: {message}" }

def summary (e : FetchFailure) : String :=
  match e.status with
  | some status => s!"HTTP error! Status: {status}"
  | none => "Autocomplete request failed"

def message (e : FetchFailure) : String := withDetail e.summary e.detail

end FetchFailure

/-- A source answered a query with something else than a list. -/
structure MalformedPayload where
  query : String
  /-- What the answer is instead. -/
  kind : String
deriving DecidableEq, Repr

namespace MalformedPayload

def summary : String := "Autocomplete payload is not a list"

def detail (e : MalformedPayload) : String := s!"got {e.kind} for query {Text.quoted e.query}"

def message (e : MalformedPayload) : String := withDetail summary (some e.detail)

end MalformedPayload

end Formulary

import Formulary.Json.Read
import Formulary.Suggestion.Source
import Formulary.Value.Written

/-!
Endpoints: sources behind a web address. A query is sent as one request; a reply of the client or
server error range is a failure, every other reply has to hold a JSON text. A text that nests too deep
to be read counts as a breakdown, whether it is well formed or not.
-/

namespace Formulary

/-- A web address that answers queries; requests are given up after `timeout` seconds. -/
structure Endpoint where
  url : String
  timeout : Value := .float 5

/-- A request as it is sent. -/
structure Request where
  url : String
  search : String
  timeout : Value

/-- What comes back for a request. -/
inductive Reply where
  | response (status : Int) (body : String)
  /-- There is no response; the message tells why. -/
  | refused (message : String)

namespace Reply

/-- A response of the client or server error range is a failure. -/
def isFailure (status : Int) : Bool := 400 ≤ status && status < 600

/-- The length to which the body of a failure is shown. -/
def shownBody : Nat := 200

def answer : Reply → Answer
  | refused message => .failure none (some message)
  | response status body =>
    if isFailure status then
      .failure (some status)
        (if body.isEmpty then none else some (String.ofList (body.toList.take shownBody)))
    else
      match Json.read body with
      | .ok v => .payload v
      | .error .malformed => .malformed "invalid JSON"
      | .error (.tooDeep what) => .breakdown "RecursionError" (Json.ReadError.tooDeep what).message

end Reply

namespace Endpoint

def request (e : Endpoint) (query : String) : Request := ⟨e.url, query, e.timeout⟩

end Endpoint

end Formulary

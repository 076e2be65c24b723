import Formulary.Failure
import Formulary.Json.Write

/-!
Notices: what is worth telling about a run besides its results. A computation can carry notices in
the order in which they arise; they never change a result.
-/

namespace Formulary

/-- How much a notice matters. -/
inductive Level where
  | debug | info | warning | error | critical
deriving DecidableEq, Repr

namespace Level

def name : Level → String
  | debug => "DEBUG"
  | info => "INFO"
  | warning => "WARNING"
  | error => "ERROR"
  | critical => "CRITICAL"

def weight : Level → Nat
  | debug => 10
  | info => 20
  | warning => 30
  | error => 40
  | critical => 50

end Level

inductive Notice where
  /-- An entry had to leave the cache. -/
  | evicted (key : String)
  /-- A query is answered from the cache. -/
  | cacheHit (key : String)
  /-- A query waits for a request that is under way. -/
  | joined (key : String)
  /-- An item of an answer has no name. -/
  | skipped (item : Json)
  | malformed (e : MalformedPayload)
  | fetchFailed (e : FetchFailure)
  /-- Suggestions came too late: the query they were fetched for, and the one that is live. -/
  | stale (key live : String)
  /-- A formula has no value. -/
  | noValue (e : EvaluationFailure)

namespace Notice

def level : Notice → Level
  | fetchFailed _ => .warning
  | _ => .debug

def origin : Notice → String
  | evicted _ => "formulabuilder.suggestions.cache"
  | cacheHit _ | joined _ | skipped _ | malformed _ => "formulabuilder.suggestions.provider"
  | fetchFailed _ | stale .. => "formulabuilder.controller"
  | noValue _ => "formulabuilder.core.evaluator"

def message : Notice → String
  | evicted key => s!"Evicted autocomplete cache entry {Text.quoted key}"
  | cacheHit key => s!"Autocomplete cache hit for {Text.quoted key}"
  | joined key => s!"Joining in-flight autocomplete request for {Text.quoted key}"
  | skipped item => s!"Skipping autocomplete item without a name: {item.source}"
  | malformed e => e.message
  | fetchFailed e => s!"Autocomplete error: {e.message}"
  | stale key live =>
    s!"Discarding stale suggestions for {Text.quoted key} (live query is {Text.quoted live})"
  | noValue e => s!"Evaluation failed for {Text.quoted e.expression}: {e.detail}"

end Notice

/-- A result with the notices that arose on the way to it. -/
structure Noted (α : Type) where
  value : α
  notices : List Notice := []

namespace Noted

instance : Monad Noted where
  pure a := ⟨a, []⟩
  bind x f := ⟨(f x.value).value, x.notices ++ (f x.value).notices⟩

def tell (n : Notice) : Noted Unit := ⟨(), [n]⟩

variable {α β : Type}

@[simp] theorem value_pure (a : α) : (pure a : Noted α).value = a := rfl

@[simp] theorem notices_pure (a : α) : (pure a : Noted α).notices = [] := rfl

@[simp] theorem value_bind (x : Noted α) (f : α → Noted β) :
    (x >>= f).value = (f x.value).value := rfl

@[simp] theorem notices_bind (x : Noted α) (f : α → Noted β) :
    (x >>= f).notices = x.notices ++ (f x.value).notices := rfl

@[simp] theorem value_map (f : α → β) (x : Noted α) : (f <$> x).value = f x.value := rfl

def fold (step : β → α → Noted β) (start : β) : List α → Noted β
  | [] => pure start
  | a :: rest => do fold step (← step start a) rest

@[simp] theorem value_fold (step : β → α → Noted β) (start : β) (xs : List α) :
    (fold step start xs).value = xs.foldl (fun b a => (step b a).value) start := by
  induction xs generalizing start with
  | nil => rfl
  | cons a rest ih => simp [fold, ih]

end Noted

end Formulary

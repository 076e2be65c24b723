import Formulary.Suggestion.Candidate
import Formulary.Text.Blank

/-!
The cache of queries. An entry tells where the request for a query stands and which candidates it
brought. Queries are kept by their trimmed text, the one written longest ago first; the cache is
bounded, and a write to a full cache drops entries from the front.
-/

namespace Formulary

/-- Where the request for a query stands. -/
inductive QueryStatus where
  | pending | success | error
deriving DecidableEq, Repr

namespace QueryStatus

def name : QueryStatus → String
  | pending => "pending"
  | success => "success"
  | error => "error"

end QueryStatus

structure CacheEntry where
  status : QueryStatus
  /-- The candidates of the last request that succeeded; a failure leaves none. -/
  data : List Operand := []
  /-- The text of the last failure. -/
  error : Option String := none
deriving DecidableEq, Repr

def queryKey (query : String) : String := Text.trim query

/-- A cache was asked to hold less than one entry. -/
structure CapacityError where
  capacity : Int
deriving DecidableEq, Repr

def CapacityError.message (_ : CapacityError) : String := "max_entries must be at least 1"

structure Cache where
  capacity : Nat
  /-- The entries by key, the one written longest ago first. -/
  entries : List (String × CacheEntry) := []
  capacity_pos : 0 < capacity := by decide
deriving DecidableEq

namespace Cache

def defaultCapacity : Nat := 256

def empty : Cache := { capacity := defaultCapacity }

def ofCapacity (capacity : Int) : Except CapacityError Cache :=
  if h : 1 ≤ capacity then .ok { capacity := capacity.toNat, capacity_pos := by omega }
  else .error ⟨capacity⟩

def size (c : Cache) : Nat := c.entries.length

def keys (c : Cache) : List String := c.entries.map Prod.fst

def get? (c : Cache) (query : String) : Option CacheEntry := c.entries.lookup (queryKey query)

def contains (c : Cache) (query : String) : Bool := (c.get? query).isSome

def without (key : String) (entries : List (String × CacheEntry)) : List (String × CacheEntry) :=
  entries.filter fun e => e.1 ≠ key

/-- Writes an entry behind all others. A blank query is never stored. -/
def put (c : Cache) (query : String) (entry : CacheEntry) : Noted Cache :=
  let key := queryKey query
  if key.isEmpty then pure c
  else
    let written := without key c.entries ++ [(key, entry)]
    let excess := written.length - c.capacity
    ⟨{ c with entries := written.drop excess },
      (written.take excess).map fun e => .evicted e.1⟩

/-- Stores the candidates of a request that succeeded. -/
def set (c : Cache) (query : String) (candidates : List Operand) : Noted Cache :=
  c.put query { status := .success, data := candidates }

/-- Records that a request is under way; candidates that are known already stay. -/
def markPending (c : Cache) (query : String) : Noted Cache :=
  c.put query { status := .pending, data := ((c.get? query).map (·.data)).getD [] }

def markError (c : Cache) (query message : String) : Noted Cache :=
  c.put query { status := .error, error := some message }

/-- Drops one query, or every query when none is given. -/
def invalidate (c : Cache) (query : Option String) : Cache :=
  match query with
  | none => { c with entries := [] }
  | some q => { c with entries := without (queryKey q) c.entries }

end Cache

end Formulary

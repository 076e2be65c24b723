import Formulary.Suggestion.Source

/-!
The provider of suggestions. Whoever asks for a query is a waiter and gets the outcome of a load.
Loads are numbered, and a table of its own tells which load of a key is shared: all who ask for the
key meanwhile wait for that one. A load goes through three stages: it is scheduled, then its call of
the source is out and the key is marked as pending in the cache, and when the answer has come the
cache holds its outcome; then the load leaves, the table forgets it, and its waiters are told. Each
of these moves is a function of its own, so that every order of moves can be followed. A call that
lapses takes its load along before there is an outcome.
-/

namespace Formulary

/-- How the wait for a load ends. -/
inductive WaitResult where
  | answered (outcome : Outcome)
  /-- The wait was given up, or broken off with its load. -/
  | cancelled

/-- How far a load has come. -/
inductive LoadStage where
  | scheduled
  | calling
  | finished (outcome : Outcome)

/-- The request for a key that is under way. -/
structure Load where
  id : Nat
  key : String
  stage : LoadStage := .scheduled
  /-- Those who wait for the outcome, by number. -/
  waiters : List Nat

structure Provider where
  cache : Cache := .empty
  /-- The loads under way, in the order in which they were begun. -/
  loads : List Load := []
  /-- The load of each key that whoever asks for the key now waits for. -/
  shared : List (String × Nat) := []
  /-- The number of loads so far. -/
  loadCount : Nat := 0
  /-- The results of those who wait no longer. -/
  results : List (Nat × WaitResult) := []

namespace Provider

/-- The keys with a load that is shared. -/
def inFlight (p : Provider) : List String := p.shared.map Prod.fst

/-- The candidates that are known without asking the source. -/
def peek (p : Provider) (query : String) : List Operand :=
  match p.cache.get? query with
  | some entry => if entry.status = .error then [] else entry.data
  | none => []

def result? (p : Provider) (waiter : Nat) : Option WaitResult := p.results.lookup waiter

def load? (p : Provider) (id : Nat) : Option Load := p.loads.find? fun l => l.id = id

def sharedLoad? (p : Provider) (key : String) : Option Load := do p.load? (← p.shared.lookup key)

def finish (p : Provider) (waiter : Nat) (r : WaitResult) : Provider :=
  { p with results := (waiter, r) :: p.results }

def modifyLoad (p : Provider) (id : Nat) (change : Load → Load) : Provider :=
  { p with loads := p.loads.map fun l => if l.id = id then change l else l }

/-- Schedules a load of a key with a first waiter, and enters it as the one that is shared. -/
def schedule (p : Provider) (key : String) (waiter : Nat) : Provider :=
  { p with
    loads := p.loads ++ [{ id := p.loadCount, key, waiters := [waiter] }]
    shared := p.shared ++ [(key, p.loadCount)]
    loadCount := p.loadCount + 1 }

/-- The candidates of a key that the cache holds for good. -/
def cached? (p : Provider) (key : String) : Option (List Operand) :=
  match p.cache.get? key with
  | some entry => if entry.status = .success then some entry.data else none
  | none => none

/-- A waiter asks for a query: a blank one has no candidates, one that succeeded before is answered
from the cache, and any other waits for the load that is shared for its key, which is scheduled if
there is none. -/
def fetch (p : Provider) (waiter : Nat) (query : String) : Noted Provider :=
  let key := queryKey query
  if key.isEmpty then pure (p.finish waiter (.answered (.ok [])))
  else
    match p.cached? key with
    | some candidates => ⟨p.finish waiter (.answered (.ok candidates)), [.cacheHit key]⟩
    | none =>
      match p.sharedLoad? key with
      | none => pure (p.schedule key waiter)
      | some load =>
        match load.stage with
        | .finished outcome => ⟨p.finish waiter (.answered outcome), [.joined key]⟩
        | _ =>
          ⟨p.modifyLoad load.id fun l => { l with waiters := l.waiters ++ [waiter] }, [.joined key]⟩

/-- A waiter gives up; the load goes on without it. -/
def cancel (p : Provider) (waiter : Nat) : Provider :=
  if p.loads.any fun l => waiter ∈ l.waiters then
    let loads := p.loads.map fun l => { l with waiters := l.waiters.filter (· ≠ waiter) }
    { p with loads }.finish waiter .cancelled
  else p

/-- Drops what the cache holds of one query, or of all. -/
def invalidate (p : Provider) (query : Option String) : Provider :=
  { p with cache := p.cache.invalidate query }

/-- A scheduled load marks its key as pending and calls the source. -/
def call (p : Provider) (id : Nat) : Noted Provider :=
  match p.load? id with
  | some { stage := .scheduled, key, .. } => do
    let cache ← p.cache.markPending key
    return { p with cache }.modifyLoad id fun l => { l with stage := .calling }
  | _ => pure p

/-- The cache after a load of a key has come to its outcome. -/
def record (cache : Cache) (key : String) : Outcome → Noted Cache
  | .ok candidates => cache.set key candidates
  | .error e => cache.markError key e.message

/-- The answer to the call of a load arrives, and its outcome is recorded. -/
def receive (p : Provider) (id : Nat) (answer : Answer) : Noted Provider :=
  match p.load? id with
  | some { stage := .calling, key, .. } => do
    let outcome ← answer.outcome key
    let cache ← record p.cache key outcome
    return { p with cache }.modifyLoad id fun l => { l with stage := .finished outcome }
  | _ => pure p

/-- A load leaves, and its waiters get a result. Its key is free again, unless another load is shared
for it by then. -/
def leave (p : Provider) (load : Load) (r : WaitResult) : Provider :=
  load.waiters.foldl (fun p w => p.finish w r)
    { p with
      loads := p.loads.filter fun l => l.id ≠ load.id
      shared := p.shared.filter fun e => e ≠ (load.key, load.id) }

def settle (p : Provider) (id : Nat) : Provider :=
  match p.load? id with
  | some load =>
    match load.stage with
    | .finished outcome => p.leave load (.answered outcome)
    | _ => p
  | none => p

/-- The call of a load breaks off: the load leaves, and nothing is recorded. -/
def lapse (p : Provider) (id : Nat) : Provider :=
  match p.load? id with
  | some load =>
    match load.stage with
    | .calling => p.leave load .cancelled
    | _ => p
  | none => p

/-- The call of a load ends. An end that is reported to nobody changes nothing. -/
def conclude (p : Provider) (id : Nat) : Ending → Noted Provider
  | .ok answer => p.receive id answer
  | .error .brokenOff => pure (p.lapse id)
  | .error .unreported => pure p

end Provider

end Formulary

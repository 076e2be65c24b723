import Formulary.Proofs.Cache
import Formulary.Suggestion.Provider
import Mathlib.Data.List.Induction

/-!
# Runs of the provider

A run is any list of moves: waiters ask and give up, queries are dropped, and loads call the source,
take in its answer and leave, in any order whatever. To peek changes nothing and is no move. `Moved`
says once what a move can do. It is the only place where the functions of the provider are opened;
all else about runs is read off its cases.
-/

namespace Formulary.Provider

/-- A move of a waiter, of the owner of the cache or of a load; loads go by number. -/
inductive Move where
  | fetch (waiter : Nat) (query : String)
  | cancel (waiter : Nat)
  | invalidate (query : Option String)
  | call (load : Nat)
  | receive (load : Nat) (answer : Answer)
  | settle (load : Nat)

def move (p : Provider) : Move → Provider
  | .fetch waiter query => (p.fetch waiter query).value
  | .cancel waiter => p.cancel waiter
  | .invalidate query => p.invalidate query
  | .call load => (p.call load).value
  | .receive load answer => (p.receive load answer).value
  | .settle load => p.settle load

def run (p : Provider) (moves : List Move) : Provider := moves.foldl move p

/-- A move with the state in which it is made. -/
structure Step where
  before : Provider
  move : Move

namespace Step

def after (s : Step) : Provider := s.before.move s.move

/-- The query with which the step calls the source. -/
def asked? (s : Step) : Option String :=
  match s.move with
  | .call load =>
    match s.before.load? load with
    | some { stage := .scheduled, key, .. } => some key
    | _ => none
  | _ => none

/-- The answer of the source that the step takes in, with its query. -/
def heard? (s : Step) : Option (String × Answer) :=
  match s.move with
  | .receive load answer =>
    match s.before.load? load with
    | some { stage := .calling, key, .. } => some (key, answer)
    | _ => none
  | _ => none

end Step

def steps (p : Provider) : List Move → List Step
  | [] => []
  | m :: rest => ⟨p, m⟩ :: steps (p.move m) rest

@[simp] theorem run_nil (p : Provider) : p.run [] = p := rfl

theorem run_concat (p : Provider) (moves : List Move) (m : Move) :
    p.run (moves ++ [m]) = (p.run moves).move m := by
  simp [run]

theorem steps_concat (p : Provider) (moves : List Move) (m : Move) :
    p.steps (moves ++ [m]) = p.steps moves ++ [⟨p.run moves, m⟩] := by
  induction moves generalizing p with
  | nil => rfl
  | cons a rest ih =>
    rw [List.cons_append, steps, steps, ih]
    rfl

/-- What holds at first and is kept by every move holds after every run. -/
theorem run_induction {motive : Provider → Prop} {p : Provider} (start : motive p)
    (step : ∀ q m, motive q → motive (q.move m)) (moves : List Move) : motive (p.run moves) := by
  induction moves using List.reverseRecOn with
  | nil => exact start
  | append_singleton moves m ih =>
    rw [run_concat]
    exact step _ _ ih

/-! ## What a move can do -/

/-- The outcome that a waiter for a key gets at once. -/
inductive Known (p : Provider) (key : String) : Outcome → Prop where
  | blank (h : key = "") : Known p key (.ok [])
  | cached {candidates : List Operand} (hkey : key ≠ "") (h : p.cached? key = some candidates) :
      Known p key (.ok candidates)
  | finished {l : Load} {outcome : Outcome} (hkey : key ≠ "") (hl : p.sharedLoad? key = some l)
      (hs : l.stage = .finished outcome) : Known p key outcome

/-- The cases of a move, with the state it leads to. -/
inductive Moved (p : Provider) : Move → Provider → Prop where
  /-- There is nothing to do. -/
  | idle {m : Move} (asked : (Step.mk p m).asked? = none) (heard : (Step.mk p m).heard? = none) :
      Moved p m p
  | told {waiter : Nat} {query : String} {outcome : Outcome}
      (h : Known p (queryKey query) outcome) :
      Moved p (.fetch waiter query) (p.finish waiter (.answered outcome))
  | scheduled {waiter : Nat} {query : String} (hkey : queryKey query ≠ "")
      (hcached : p.cached? (queryKey query) = none)
      (hshared : p.sharedLoad? (queryKey query) = none) :
      Moved p (.fetch waiter query) (p.schedule (queryKey query) waiter)
  | joined {waiter : Nat} {query : String} {l : Load} (hkey : queryKey query ≠ "")
      (hl : p.sharedLoad? (queryKey query) = some l) :
      Moved p (.fetch waiter query)
        (p.modifyLoad l.id fun l => { l with waiters := l.waiters ++ [waiter] })
  | cancelled {waiter : Nat} :
      Moved p (.cancel waiter)
        (Provider.finish { p with loads := p.loads.map fun l =>
          { l with waiters := l.waiters.filter (· ≠ waiter) } } waiter .cancelled)
  | invalidated {query : Option String} : Moved p (.invalidate query) (p.invalidate query)
  | called {id : Nat} {l : Load} (hl : p.load? id = some l) (hs : l.stage = .scheduled) :
      Moved p (.call id)
        (modifyLoad { p with cache := (p.cache.markPending l.key).value } id
          fun l => { l with stage := .calling })
  | received {id : Nat} {answer : Answer} {l : Load} (hl : p.load? id = some l)
      (hs : l.stage = .calling) :
      Moved p (.receive id answer)
        (modifyLoad { p with cache := (record p.cache l.key (answer.outcome l.key).value).value } id
          fun m => { m with stage := .finished (answer.outcome l.key).value })
  | settled {id : Nat} {l : Load} {outcome : Outcome} (hl : p.load? id = some l)
      (hs : l.stage = .finished outcome) :
      Moved p (.settle id)
        { p with
          loads := p.loads.filter fun l => l.id ≠ id
          shared := p.shared.filter fun e => e ≠ (l.key, id)
          results := (l.waiters.map fun w => (w, WaitResult.answered outcome)).reverse ++ p.results }

theorem foldl_finish (p : Provider) (waiters : List Nat) (r : WaitResult) :
    waiters.foldl (fun p w => p.finish w r) p =
      { p with results := (waiters.map fun w => (w, r)).reverse ++ p.results } := by
  induction waiters generalizing p with
  | nil => rfl
  | cons w rest ih =>
    rw [List.foldl_cons, ih]
    simp [finish]

theorem call_of_scheduled {p : Provider} {id : Nat} {l : Load} (hl : p.load? id = some l)
    (hs : l.stage = .scheduled) :
    (p.call id).value = modifyLoad { p with cache := (p.cache.markPending l.key).value } id
      fun l => { l with stage := .calling } := by
  obtain ⟨n, key, stage, waiters⟩ := l
  subst hs
  simp [call, hl]

theorem receive_of_calling {p : Provider} {id : Nat} {l : Load} (hl : p.load? id = some l)
    (hs : l.stage = .calling) (answer : Answer) :
    (p.receive id answer).value =
      modifyLoad { p with cache := (record p.cache l.key (answer.outcome l.key).value).value } id
        fun m => { m with stage := .finished (answer.outcome l.key).value } := by
  obtain ⟨n, key, stage, waiters⟩ := l
  subst hs
  simp [receive, hl]

theorem leave_eq (p : Provider) (l : Load) (r : WaitResult) :
    p.leave l r = { p with
      loads := p.loads.filter fun m => m.id ≠ l.id
      shared := p.shared.filter fun e => e ≠ (l.key, l.id)
      results := (l.waiters.map fun w => (w, r)).reverse ++ p.results } := by
  rw [leave, foldl_finish]

theorem settle_of_finished {p : Provider} {id : Nat} {l : Load} {outcome : Outcome}
    (hl : p.load? id = some l) (hs : l.stage = .finished outcome) :
    p.settle id = { p with
      loads := p.loads.filter fun l => l.id ≠ id
      shared := p.shared.filter fun e => e ≠ (l.key, id)
      results := (l.waiters.map fun w => (w, WaitResult.answered outcome)).reverse ++ p.results } := by
  obtain rfl : l.id = id := by simpa using List.find?_some hl
  simp only [settle, hl, hs, leave_eq]

/-- A waiter that asks is told at once, begins a load or joins one. -/
inductive Fetched (p : Provider) (waiter : Nat) (query : String) : Provider → Prop where
  | told {outcome : Outcome} (h : Known p (queryKey query) outcome) :
      Fetched p waiter query (p.finish waiter (.answered outcome))
  | scheduled (hkey : queryKey query ≠ "") (hcached : p.cached? (queryKey query) = none)
      (hshared : p.sharedLoad? (queryKey query) = none) :
      Fetched p waiter query (p.schedule (queryKey query) waiter)
  | joined {l : Load} (hkey : queryKey query ≠ "")
      (hl : p.sharedLoad? (queryKey query) = some l) :
      Fetched p waiter query
        (p.modifyLoad l.id fun l => { l with waiters := l.waiters ++ [waiter] })

theorem fetched (p : Provider) (waiter : Nat) (query : String) :
    Fetched p waiter query (p.fetch waiter query).value := by
  unfold fetch
  by_cases hkey : queryKey query = ""
  · have h : Fetched p waiter query _ := .told (.blank hkey)
    simpa [hkey] using h
  simp only [String.isEmpty_iff, hkey, if_false]
  cases hcached : p.cached? (queryKey query) with
  | some candidates => exact .told (.cached hkey hcached)
  | none =>
    cases hl : p.sharedLoad? (queryKey query) with
    | none => exact .scheduled hkey hcached hl
    | some l =>
      cases hs : l.stage with
      | finished outcome => simpa only [hs] using Fetched.told (.finished hkey hl hs)
      | scheduled => simpa only [hs] using Fetched.joined hkey hl
      | calling => simpa only [hs] using Fetched.joined hkey hl

theorem fetch_of_cached {p : Provider} {query : String} {candidates : List Operand}
    (hkey : queryKey query ≠ "") (hcached : p.cached? (queryKey query) = some candidates) (w : Nat) :
    p.move (.fetch w query) = p.finish w (.answered (.ok candidates)) := by
  simp [move, fetch, hkey, hcached]

theorem moved_fetch (p : Provider) (waiter : Nat) (query : String) :
    Moved p (.fetch waiter query) (p.fetch waiter query).value := by
  have h := fetched p waiter query
  generalize (p.fetch waiter query).value = q at h ⊢
  cases h with
  | told h => exact .told h
  | scheduled hkey hcached hshared => exact .scheduled hkey hcached hshared
  | joined hkey hl => exact .joined hkey hl

theorem moved_cancel (p : Provider) (waiter : Nat) :
    Moved p (.cancel waiter) (p.cancel waiter) := by
  unfold cancel
  split
  · exact .cancelled
  · exact .idle rfl rfl

theorem moved_call (p : Provider) (id : Nat) : Moved p (.call id) (p.call id).value := by
  by_cases h : ∃ l, p.load? id = some l ∧ l.stage = .scheduled
  · obtain ⟨l, hl, hs⟩ := h
    rw [call_of_scheduled hl hs]
    exact .called hl hs
  · have hidle : (p.call id).value = p := by
      unfold call
      split
      · rename_i hl
        exact absurd ⟨_, hl, rfl⟩ h
      · rfl
    have hasked : (Step.mk p (.call id)).asked? = none := by
      unfold Step.asked?
      dsimp only
      split
      · rename_i hl
        exact absurd ⟨_, hl, rfl⟩ h
      · rfl
    rw [hidle]
    exact .idle hasked rfl

theorem moved_receive (p : Provider) (id : Nat) (answer : Answer) :
    Moved p (.receive id answer) (p.receive id answer).value := by
  by_cases h : ∃ l, p.load? id = some l ∧ l.stage = .calling
  · obtain ⟨l, hl, hs⟩ := h
    rw [receive_of_calling hl hs]
    exact .received hl hs
  · have hidle : (p.receive id answer).value = p := by
      unfold receive
      split
      · rename_i hl
        exact absurd ⟨_, hl, rfl⟩ h
      · rfl
    have hheard : (Step.mk p (.receive id answer)).heard? = none := by
      unfold Step.heard?
      dsimp only
      split
      · rename_i hl
        exact absurd ⟨_, hl, rfl⟩ h
      · rfl
    rw [hidle]
    exact .idle rfl hheard

theorem moved_settle (p : Provider) (id : Nat) : Moved p (.settle id) (p.settle id) := by
  by_cases h : ∃ l outcome, p.load? id = some l ∧ l.stage = .finished outcome
  · obtain ⟨l, outcome, hl, hs⟩ := h
    rw [settle_of_finished hl hs]
    exact .settled hl hs
  · have hidle : p.settle id = p := by
      unfold settle
      split
      · rename_i hl
        split
        · rename_i hs
          exact absurd ⟨_, _, hl, hs⟩ h
        · rfl
      · rfl
    rw [hidle]
    exact .idle rfl rfl

theorem moved (p : Provider) (m : Move) : Moved p m (p.move m) := by
  cases m with
  | fetch waiter query => exact moved_fetch p waiter query
  | cancel waiter => exact moved_cancel p waiter
  | invalidate query => exact .invalidated
  | call load => exact moved_call p load
  | receive load answer => exact moved_receive p load answer
  | settle load => exact moved_settle p load

end Formulary.Provider

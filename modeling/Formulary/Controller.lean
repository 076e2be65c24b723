import Formulary.Editor
import Formulary.Suggestion.Supply

/-!
The controller: an editor whose suggestions come from a provider. When the text is replaced while the
controller is live, a refresh is scheduled: it reads the live key when it starts, waits for the
candidates of that key, and hands them to the editor, which takes them if the key is still live. A
fetch that fails gives no candidates.
-/

namespace Formulary

/-- A refresh of the suggestions; `key` is what it waits for once it has started. -/
structure Refresh where
  id : Nat
  key : Option String := none
deriving DecidableEq, Repr

structure Controller where
  editor : Editor := {}
  provider : Provider := {}
  /-- The refreshes that are not finished, in the order in which they were scheduled. -/
  refreshes : List Refresh := []
  /-- The number of refreshes so far. -/
  refreshCount : Nat := 0
  /-- How often the input field asked for the focus. -/
  focusCount : Nat := 0

namespace Controller

def schedule (c : Controller) : Controller :=
  { c with
    refreshes := c.refreshes ++ [⟨c.refreshCount, none⟩]
    refreshCount := c.refreshCount + 1 }

/-- Handles an event, and tells whether a key was used to move the highlight. -/
def handle (c : Controller) (live : Bool) (event : InputEvent) : Controller × Bool :=
  let r := c.editor.react c.provider.peek event
  let c := { c with editor := r.editor, focusCount := c.focusCount + r.focus.toNat }
  (if live && r.retyped then c.schedule else c, r.consumed)

/-- Hands candidates to the editor, and tells whether it took them. -/
def apply (c : Controller) (key : String) (candidates : List Operand) :
    Noted (Controller × Bool) := do
  match ← c.editor.apply key candidates with
  | some editor => return ({ c with editor }, true)
  | none => return (c, false)

/-- The candidates that the result of a wait brings, if it brings any. -/
def candidates? : WaitResult → Noted (Option (List Operand))
  | .answered (.ok candidates) => pure (some candidates)
  | .answered (.error e) => ⟨some [], [.fetchFailed e]⟩
  | .cancelled => pure none

/-- Finishes a refresh whose wait is over, and tells whether its candidates were taken. -/
def resume (c : Controller) (id : Nat) : Noted (Controller × Option Bool) :=
  match c.refreshes.find? fun r => r.id = id with
  | some ⟨_, some key⟩ =>
    match c.provider.result? id with
    | some r => do
      let c := { c with refreshes := c.refreshes.filter fun r => r.id ≠ id }
      match ← candidates? r with
      | some candidates =>
        let (c, taken) ← c.apply key candidates
        return (c, some taken)
      | none => return (c, none)
    | none => pure (c, none)
  | _ => pure (c, none)

/-- Starts a scheduled refresh with the key that is live now. One that need not wait is finished at
once. -/
def start (c : Controller) (id : Nat) : Noted (Controller × Option Bool) :=
  match c.refreshes.find? fun r => r.id = id with
  | some ⟨_, none⟩ => do
    let key := c.editor.key
    let provider ← c.provider.fetch id key
    let refreshes := c.refreshes.map fun r => if r.id = id then { r with key := some key } else r
    { c with provider, refreshes }.resume id
  | _ => pure (c, none)

/-- Starts the refreshes that are scheduled and does all that can be done without an answer that is
held back. -/
def advance (s : Supply) (c : Controller) : Noted (Supply × Controller) := do
  let step := fun (move : Controller → Nat → Noted (Controller × Option Bool)) (c : Controller)
    (r : Refresh) => Prod.fst <$> move c r.id
  let c ← Noted.fold (step start) c c.refreshes
  let (s, provider) ← c.provider.advance s
  let c := { c with provider }
  let c ← Noted.fold (step resume) c c.refreshes
  return (s, c)

/-- Refreshes the suggestions for the live key, and tells whether the candidates were taken; there is
no answer to that while the source holds its answer back. -/
def refresh (s : Supply) (c : Controller) : Noted (Supply × Controller × Option Bool) := do
  let id := c.refreshCount
  let (c, taken) ← c.schedule.start id
  match taken with
  | some taken => return (s, c, some taken)
  | none =>
    let (s, provider) ← c.provider.advance s
    let (c, taken) ← { c with provider }.resume id
    return (s, c, taken)

end Controller

end Formulary

import Formulary.Controller
import Formulary.Proofs.Editor
import Formulary.Proofs.Provider.Provenance

/-!
# Runs of the controller

A run is any list of moves: of the user, of refreshes, which start and end one by one, and of the
provider. What a refresh does is taken apart here, so that later proofs need not open it: it asks for
the live key, and what its wait brings goes to the editor if that key is live then.
-/

namespace Formulary

namespace Controller

variable {c : Controller}

/-- A move of the user, of a refresh or of the provider; refreshes go by number. -/
inductive Move where
  | input (live : Bool) (event : InputEvent)
  | apply (key : String) (candidates : List Operand)
  | schedule
  | start (refresh : Nat)
  | resume (refresh : Nat)
  | provider (m : Provider.Move)

def move (c : Controller) : Move → Controller
  | .input live event => (c.handle live event).1
  | .apply key candidates => (c.apply key candidates).value.1
  | .schedule => c.schedule
  | .start refresh => (c.start refresh).value.1
  | .resume refresh => (c.resume refresh).value.1
  | .provider m => { c with provider := c.provider.move m }

def run (c : Controller) (moves : List Move) : Controller := moves.foldl move c

def heard? (c : Controller) : Move → Option (String × Answer)
  | .provider m => (Provider.Step.mk c.provider m).heard?
  | _ => none

/-- The answers that a run takes in, with their queries. -/
def heard (c : Controller) : List Move → List (String × Answer)
  | [] => []
  | m :: rest => (c.heard? m).toList ++ heard (c.move m) rest

theorem run_concat (c : Controller) (moves : List Move) (m : Move) :
    c.run (moves ++ [m]) = (c.run moves).move m := by
  simp [run]

/-- What holds at first, and is kept by every move that is allowed and hears nothing unfit, holds after
every run of such moves. -/
theorem run_induction {motive : Controller → Prop} {Allowed : Move → Prop}
    {Fit : String → Answer → Prop} (start : motive c)
    (step : ∀ c m, motive c → Allowed m → (∀ k a, c.heard? m = some (k, a) → Fit k a) →
      motive (c.move m)) {moves : List Move} (hmoves : ∀ m ∈ moves, Allowed m)
    (hheard : ∀ k a, (k, a) ∈ c.heard moves → Fit k a) : motive (c.run moves) := by
  induction moves generalizing c with
  | nil => exact start
  | cons m rest ih =>
    have hm : ∀ k a, c.heard? m = some (k, a) → Fit k a := by
      intro k a ha
      exact hheard k a (by simp [heard, ha])
    refine ih (step c m start (hmoves m (by simp)) hm) (fun n hn => hmoves n (by simp [hn])) ?_
    intro k a ha
    exact hheard k a (by simp [heard, ha])

/-! ## What the parts of a move change -/

theorem handle_editor (c : Controller) (live : Bool) (event : InputEvent) :
    (c.handle live event).1.editor = (c.editor.react c.provider.peek event).editor := by
  unfold handle
  dsimp only
  split <;> rfl

theorem handle_provider (c : Controller) (live : Bool) (event : InputEvent) :
    (c.handle live event).1.provider = c.provider := by
  unfold handle
  dsimp only
  split <;> rfl

/-- Outside a loop, and as long as the text is not replaced, an event schedules nothing. -/
theorem handle_refreshes (c : Controller) (live : Bool) (event : InputEvent) :
    ((c.handle live event).1.refreshes = c.schedule.refreshes ∧
        (c.handle live event).1.refreshCount = c.schedule.refreshCount) ∨
      ((live && (c.editor.react c.provider.peek event).retyped) = false ∧
        (c.handle live event).1.refreshes = c.refreshes ∧
        (c.handle live event).1.refreshCount = c.refreshCount) := by
  unfold handle
  dsimp only
  cases h : live && (c.editor.react c.provider.peek event).retyped with
  | true => exact Or.inl ⟨rfl, rfl⟩
  | false => exact Or.inr ⟨rfl, rfl, rfl⟩

theorem apply_value (c : Controller) (key : String) (candidates : List Operand) :
    (c.apply key candidates).value.1 =
      if key = c.editor.key then { c with editor := c.editor.install candidates } else c := by
  by_cases h : key = c.editor.key
  · simp [apply, Editor.apply, h]
  · simp [apply, Editor.apply, h]

def ask (c : Controller) (id : Nat) : Controller :=
  { c with
    provider := (c.provider.fetch id c.editor.key).value
    refreshes := c.refreshes.map fun r => if r.id = id then { r with key := some c.editor.key } else r }

def dismiss (c : Controller) (id : Nat) : Controller :=
  { c with refreshes := c.refreshes.filter fun r => r.id ≠ id }

@[simp] theorem editor_ask (c : Controller) (id : Nat) : (c.ask id).editor = c.editor := by
  simp only [ask]

theorem refreshes_ask (c : Controller) (id : Nat) :
    (c.ask id).refreshes =
      c.refreshes.map fun r => if r.id = id then { r with key := some c.editor.key } else r := by
  simp only [ask]

@[simp] theorem refreshCount_ask (c : Controller) (id : Nat) :
    (c.ask id).refreshCount = c.refreshCount := by
  simp only [ask]

theorem provider_ask (c : Controller) (id : Nat) :
    (c.ask id).provider = c.provider.move (.fetch id c.editor.key) := by
  simp only [ask, Provider.move]

@[simp] theorem editor_dismiss (c : Controller) (id : Nat) : (c.dismiss id).editor = c.editor := rfl

theorem mem_of_find? {id : Nat} {r : Refresh} (h : c.refreshes.find? (fun r => r.id = id) = some r) :
    r ∈ c.refreshes ∧ r.id = id :=
  ⟨List.mem_of_find?_eq_some h, by simpa using List.find?_some h⟩

/-- A refresh that starts asks, and ends at once if it need not wait. -/
theorem start_value (c : Controller) (id : Nat) :
    (c.start id).value.1 = c ∨
      ⟨id, none⟩ ∈ c.refreshes ∧ (c.start id).value.1 = ((c.ask id).resume id).value.1 := by
  cases hr : c.refreshes.find? fun r => r.id = id with
  | none => exact Or.inl (by simp [start, hr])
  | some r =>
    obtain ⟨hmem, rfl⟩ := mem_of_find? hr
    obtain ⟨n, key⟩ := r
    cases key with
    | none => exact Or.inr ⟨hmem, by simp only [start, hr, ask, Noted.value_bind]⟩
    | some key => exact Or.inl (by simp [start, hr])

/-- The ways in which the wait of a refresh ends. -/
inductive Resumed (c : Controller) (id : Nat) : Controller → Prop where
  /-- There is no such refresh, or it has to wait. -/
  | waiting : Resumed c id c
  | cancelled (hresult : c.provider.result? id = some .cancelled) : Resumed c id (c.dismiss id)
  | stale {key : String} (hr : ⟨id, some key⟩ ∈ c.refreshes) (hkey : key ≠ c.editor.key) :
      Resumed c id (c.dismiss id)
  | taken {outcome : Outcome} (hr : ⟨id, some c.editor.key⟩ ∈ c.refreshes)
      (hresult : c.provider.result? id = some (.answered outcome)) :
      Resumed c id { c.dismiss id with editor := c.editor.install outcome.candidates }

theorem value_candidates? (outcome : Outcome) :
    (candidates? (.answered outcome)).value = some outcome.candidates := by
  cases outcome <;> rfl

theorem resumed (c : Controller) (id : Nat) : Resumed c id (c.resume id).value.1 := by
  cases hr : c.refreshes.find? fun r => r.id = id with
  | none =>
    have h : (c.resume id).value.1 = c := by simp [resume, hr]
    rw [h]
    exact .waiting
  | some r =>
    obtain ⟨hmem, rfl⟩ := mem_of_find? hr
    obtain ⟨id, key⟩ := r
    cases key with
    | none =>
      have h : (c.resume id).value.1 = c := by simp [resume, hr]
      rw [h]
      exact .waiting
    | some key =>
      cases hresult : c.provider.result? id with
      | none =>
        have h : (c.resume id).value.1 = c := by simp [resume, hr, hresult]
        rw [h]
        exact .waiting
      | some result =>
        cases result with
        | cancelled =>
          have h : (c.resume id).value.1 = c.dismiss id := by
            simp [resume, hr, hresult, candidates?, dismiss]
          rw [h]
          exact .cancelled hresult
        | answered outcome =>
          have h : (c.resume id).value.1 = ((c.dismiss id).apply key outcome.candidates).value.1 := by
            simp [resume, hr, hresult, value_candidates?, dismiss]
          rw [h, apply_value, editor_dismiss]
          by_cases hkey : key = c.editor.key
          · subst hkey
            rw [if_pos rfl]
            exact .taken hmem hresult
          · rw [if_neg hkey]
            exact .stale hmem hkey

/-! ## The editor in a run -/

theorem valid_resume (h : c.editor.Valid) (id : Nat) : (c.resume id).value.1.editor.Valid := by
  have hr := resumed c id
  generalize (c.resume id).value.1 = d at hr ⊢
  cases hr with
  | waiting | cancelled | stale => exact h
  | taken => exact h.install _

theorem valid_move (h : c.editor.Valid) (m : Move) : (c.move m).editor.Valid := by
  cases m with
  | input live event =>
    rw [move, handle_editor]
    exact h.react _ event
  | apply key candidates =>
    rw [move, apply_value]
    split
    · exact h.install candidates
    · exact h
  | schedule => exact h
  | provider m => exact h
  | resume id => exact valid_resume h id
  | start id =>
    rw [move]
    rcases start_value c id with heq | ⟨-, heq⟩
    · rwa [heq]
    · have hask : (c.ask id).editor.Valid := by rwa [editor_ask]
      rw [heq]
      exact valid_resume hask id

theorem valid_run (h : c.editor.Valid) (moves : List Move) : (c.run moves).editor.Valid := by
  induction moves generalizing c with
  | nil => exact h
  | cons m rest ih => exact ih (valid_move h m)

/-- In every run of a new controller the cursor lies in the formula and the highlight in the list of
suggestions, which are the candidates that fit the formula: after an operator, no operators. -/
theorem editor_shape (provider : Provider) (moves : List Move) :
    let e := (run { provider } moves).editor
    (∀ i ∈ e.cursor, i ≤ e.formula.length) ∧
      (∀ i ∈ e.highlighted, i < e.suggestions.length) ∧
      (e.highlightedSuggestion = none ↔ e.highlighted = none) ∧
      e.suggestions = Suggestion.fitting e.candidates e.formula ∧
      (Formula.endsInOperator e.formula = true →
        ∀ x ∈ e.suggestions, isOperatorSymbol x.name = false) := by
  intro e
  have h : e.Valid := valid_run Editor.valid_new moves
  refine ⟨h.cursor, h.highlighted, h.highlightedSuggestion_eq_none_iff, h.suggestions, ?_⟩
  intro hend x hx
  rw [h.suggestions] at hx
  exact Suggestion.mem_fitting_of_endsInOperator hend hx

end Controller

end Formulary

import Formulary.Formula.Evaluate
import Formulary.Suggestion.Cache

/-!
The editor of a formula: a sequence of tokens, a text that is being typed, a cursor where the next
token goes, and the suggestions for the text, one of which may be highlighted. The suggestions are
always the candidates that fit the formula. What is known of the candidates of a query is looked up
with `peek`, and nothing else of the editor depends on it.
-/

namespace Formulary

/-- The keys that the editor reacts to. -/
inductive Key where
  | enter | backspace | arrowDown | arrowUp | escape
deriving DecidableEq, Repr

namespace Key

def all : List Key := [enter, backspace, arrowDown, arrowUp, escape]

def name : Key → String
  | enter => "Enter"
  | backspace => "Backspace"
  | arrowDown => "ArrowDown"
  | arrowUp => "ArrowUp"
  | escape => "Escape"

def ofName? (s : String) : Option Key := all.find? (·.name = s)

end Key

/-- What can be done with a token of the formula. -/
inductive TokenAction where
  | edit | delete
deriving DecidableEq, Repr

namespace TokenAction

def all : List TokenAction := [edit, delete]

def name : TokenAction → String
  | edit => "edit"
  | delete => "delete"

def ofName? (s : String) : Option TokenAction := all.find? (·.name = s)

end TokenAction

/-- What the user does. Keys and actions come by name, and an unknown name does nothing. -/
inductive InputEvent where
  | text (s : String)
  | key (name : String)
  | click (index : Int)
  | select (index : Int)
  | action (index : Int) (name : String)
deriving DecidableEq, Repr

/-- The state of the input field in short. -/
inductive InputState where
  | idle | typing | suggesting
deriving DecidableEq, Repr

namespace InputState

def name : InputState → String
  | idle => "idle"
  | typing => "typing"
  | suggesting => "suggesting"

end InputState

structure Editor where
  formula : List Token := []
  /-- The text that is being typed. -/
  text : String := ""
  /-- The place where the next token goes, if not at the end. -/
  cursor : Option Nat := none
  /-- The index of the suggestion that `Enter` would commit. -/
  highlighted : Option Nat := none
  candidates : List Operand := []
  suggestions : List Operand := []
deriving DecidableEq, Repr

/-- What an event leads to. -/
structure Reaction where
  editor : Editor
  /-- The text was replaced, so that candidates for it have to be fetched. -/
  retyped : Bool := false
  /-- The input field asks for the focus. -/
  focus : Bool := false
  /-- The key was used to move the highlight. -/
  consumed : Bool := false

/-- What is known of the candidates of a query. -/
abbrev Peek := String → List Operand

namespace Editor

/-- The key of the query that is live: that of the text. -/
def key (e : Editor) : String := queryKey e.text

def highlightedSuggestion (e : Editor) : Option Operand := do e.suggestions[← e.highlighted]?

def state (e : Editor) : InputState :=
  if e.text.isEmpty then .idle
  else if e.suggestions.isEmpty then .typing
  else .suggesting

/-- Chooses the suggestions anew; the highlight is lost if they change. -/
def refilter (e : Editor) : Editor :=
  let suggestions := Suggestion.fitting e.candidates e.formula
  if suggestions = e.suggestions then e else { e with suggestions, highlighted := none }

/-- Replaces the formula. A cursor beyond its end is lost. -/
def setFormula (e : Editor) (formula : List Token) : Editor :=
  refilter { e with formula, cursor := e.cursor.filter (· ≤ formula.length) }

/-- Replaces the text. With a new key the candidates become those known for it. -/
def retype (peek : Peek) (e : Editor) (text : String) : Editor :=
  let e' := { e with text }
  if e'.key = e.key then e'
  else
    let candidates := peek e'.key
    { e' with
      candidates
      suggestions := Suggestion.fitting candidates e.formula
      highlighted := none }

/-- Puts a token at the cursor and starts over with an empty text. -/
def commit (peek : Peek) (e : Editor) (t : Token) : Editor :=
  let e := e.setFormula (Formula.insert e.formula t (e.cursor.map Int.ofNat))
  retype peek { e with cursor := none, highlighted := none } ""

/-- Takes over candidates. -/
def install (e : Editor) (candidates : List Operand) : Editor := refilter { e with candidates }

/-- Takes over the candidates that were fetched for a key, if that key is still live. -/
def apply (e : Editor) (key : String) (candidates : List Operand) : Noted (Option Editor) :=
  if key = e.key then pure (some (e.install candidates))
  else ⟨none, [.stale key e.key]⟩

/-- `Enter` commits the highlighted suggestion, else the text, unless it is blank. -/
def enter (peek : Peek) (e : Editor) : Reaction :=
  let text := Text.trim e.text
  if text.isEmpty then { editor := e }
  else
    let t := match e.highlightedSuggestion with
      | some c => .operand c
      | none => Token.ofText text
    { editor := e.commit peek t, retyped := true }

/-- `Backspace` with an empty text removes the last token. -/
def backspace (e : Editor) : Reaction :=
  if e.text.isEmpty then
    { editor := { e.setFormula (Formula.removeLast e.formula) with cursor := none }, focus := true }
  else { editor := e }

/-- The highlight one further in a list of `count`, round the end; the first one if there is none. -/
def next (count : Nat) : Option Nat → Nat
  | some i => if i < count then (i + 1) % count else 0
  | none => 0

/-- The highlight one back in a list of `count`, round the start; the last one if there is none. -/
def previous (count : Nat) : Option Nat → Nat
  | some i => if i < count then (i + count - 1) % count else count - 1
  | none => count - 1

def moveHighlight (e : Editor) (move : Nat → Option Nat → Nat) : Reaction :=
  if e.suggestions.isEmpty then { editor := e }
  else
    { editor := { e with highlighted := some (move e.suggestions.length e.highlighted) }
      consumed := true }

def press (peek : Peek) (e : Editor) : Key → Reaction
  | .enter => e.enter peek
  | .backspace => e.backspace
  | .arrowDown => e.moveHighlight next
  | .arrowUp => e.moveHighlight previous
  | .escape => { editor := retype peek { e with highlighted := none } "", retyped := true }

/-- The cursor goes behind the token that is clicked. -/
def click (e : Editor) (index : Int) : Editor :=
  { e with cursor := some (min (index + 1).toNat e.formula.length) }

def at? {α : Type} (xs : List α) (index : Int) : Option α :=
  if 0 ≤ index then xs[index.toNat]? else none

/-- Commits the suggestion at an index. -/
def select (peek : Peek) (e : Editor) (index : Int) : Reaction :=
  match at? e.suggestions index with
  | some c => { editor := e.commit peek (.operand c), retyped := true, focus := true }
  | none => { editor := e }

/-- Removes the token at an index; to edit it, its text is typed again. -/
def act (peek : Peek) (e : Editor) (index : Int) : TokenAction → Reaction
  | .delete => { editor := e.setFormula (Formula.removeAt e.formula index) }
  | .edit =>
    match at? e.formula index with
    | some t =>
      let e := e.setFormula (Formula.removeAt e.formula index)
      { editor := e.retype peek t.display, retyped := true, focus := true }
    | none => { editor := e }

def react (peek : Peek) (e : Editor) : InputEvent → Reaction
  | .text s => { editor := e.retype peek s, retyped := true }
  | .key name =>
    match Key.ofName? name with
    | some k => e.press peek k
    | none => { editor := e }
  | .click i => { editor := e.click i }
  | .select i => e.select peek i
  | .action i name =>
    match TokenAction.ofName? name with
    | some a => e.act peek i a
    | none => { editor := e }

end Editor

end Formulary

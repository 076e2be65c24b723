import Formulary.Config.Supply
import Formulary.Controller
import Formulary.Terminal.Palette

/-!
Sessions: the editor on a terminal, driven by lines. A line that starts with a colon is a command, a
blank line or the text that stands already is `Enter`, and any other line replaces the text and
fetches its suggestions. Most lines answer with a picture of the editor.
-/

namespace Formulary

/-- The commands of a session. -/
inductive SessionCommand where
  | help | quit | enter | down | up | esc | back | moveTo | del | edit | pick | display | vars
deriving DecidableEq, Repr

namespace SessionCommand

def all : List SessionCommand :=
  [help, quit, enter, down, up, esc, back, moveTo, del, edit, pick, display, vars]

def name : SessionCommand → String
  | help => "help"
  | quit => "quit"
  | enter => "enter"
  | down => "down"
  | up => "up"
  | esc => "esc"
  | back => "back"
  | moveTo => "at"
  | del => "del"
  | edit => "edit"
  | pick => "pick"
  | display => "show"
  | vars => "vars"

def aliases : SessionCommand → List String
  | help => ["h", "?"]
  | quit => ["q", "exit"]
  | enter => ["commit"]
  | down => ["j"]
  | up => ["k"]
  | esc => ["escape"]
  | back => ["bs"]
  | del => ["delete"]
  | display => ["s"]
  | vars => ["v"]
  | moveTo | edit | pick => []

def summary : SessionCommand → String
  | help => "Show this help message"
  | quit => "Exit the REPL"
  | enter => "Press Enter"
  | down => "Highlight the next suggestion"
  | up => "Highlight the previous suggestion"
  | esc => "Abandon the current entry"
  | back => "Press Backspace"
  | moveTo => "Insert after token <i>"
  | del => "Delete token <i>"
  | edit => "Edit token <i>"
  | pick => "Commit suggestion <i>"
  | display => "Show the formula"
  | vars => "Show variable bindings"

def names (c : SessionCommand) : List String := c.name :: c.aliases

def ofName? (s : String) : Option SessionCommand := all.find? fun c => s ∈ c.names

end SessionCommand

/-- What a line leads to. -/
inductive LineResult where
  | text (s : String)
  | quit
  /-- A value cannot be written. -/
  | failed (e : EvalError)
deriving DecidableEq, Repr

structure Session where
  config : Config
  palette : Palette := ⟨false⟩
  controller : Controller
  supply : Supply

namespace Session

/-- A fresh session; `reply` is what the endpoint replies to a query. -/
def create (config : Config) (palette : Palette) (reply : String → Reply) :
    Except CapacityError Session := do
  let provider ← config.provider
  return { config, palette, controller := { provider }, supply := config.supply reply }

def editor (s : Session) : Editor := s.controller.editor

/-! Pictures -/

def windowSize : Int := 8

/-- The suggestions that are shown, from the first one to before the second one: those around the
highlight, as far as the ends allow. -/
def visibleWindow (count : Int) (highlighted : Option Int) : Int × Int :=
  if count ≤ windowSize then (0, count)
  else
    let start := min (max (highlighted.getD 0 - windowSize / 2) 0) (count - windowSize)
    (start, start + windowSize)

def cursorMark (s : Session) : String := s.palette.paint [.yellow] "|"

def tokenCell (s : Session) (index : Nat) (t : Token) : String :=
  let tints := if t.kind = .operator then [Tint.blue, .bold] else [.white]
  s.palette.paint [.gray] s!"{index}:" ++ s.palette.paint tints t.display

/-- The tokens with the cursor among them. -/
def tokenLine (s : Session) : String :=
  let e := s.editor
  let mark := fun (k : Nat) => if e.cursor = some k then [s.cursorMark] else []
  let cells := e.formula.zipIdx.flatMap fun (t, k) => mark k ++ [s.tokenCell k t]
  if e.formula.isEmpty then "  " ++ s.palette.paint [.dim] "(empty formula)"
  else "  " ++ "  ".intercalate (cells ++ mark e.formula.length)

def suggestionRow (s : Session) (index : Nat) (c : Operand) : String :=
  let row := s!"[{index}] {c.name}"
  if s.editor.highlighted = some index then "  " ++ s.palette.paint [.reverse] ("> " ++ row)
  else "    " ++ row

/-- The suggestions in view, and their number if some are out of view. -/
def suggestionLines (s : Session) : List String :=
  let suggestions := s.editor.suggestions
  let count := suggestions.length
  let (start, stop) := visibleWindow count (s.editor.highlighted.map Int.ofNat)
  let rows := (suggestions.zipIdx.drop start.toNat).take (stop - start).toNat
  if suggestions.isEmpty then []
  else
    ["  " ++ s.palette.paint [.dim] "suggestions:"] ++
      rows.map (fun (c, k) => s.suggestionRow k c) ++
      (if stop - start < count then ["    " ++ s.palette.paint [.dim] s!"({count} total)"] else [])

/-- The picture of the editor: tokens, suggestions and the result. -/
def render (s : Session) : Noted String := do
  let lines := s.tokenLine :: s.suggestionLines
  if s.editor.formula.isEmpty then return "\n".intercalate lines
  let result ← Formula.report s.config.scope s.editor.formula
  return "\n".intercalate (lines ++ ["  Result: " ++ s.palette.paint [.bold] result])

def prompt (s : Session) : String :=
  let text := s.editor.text
  if text.isEmpty then "formula> "
  else "formula [" ++ s.palette.paint [.cyan] text ++ "]> "

def nameColumn (c : SessionCommand) : String :=
  let names := ", ".intercalate (c.names.map (":" ++ ·))
  names ++ String.ofList (List.replicate (18 - names.length) ' ')

def help (s : Session) : String :=
  let heading := s.palette.paint [.bold]
  let entry := fun (tint : Tint) (what meaning : String) =>
    "  " ++ s.palette.paint [tint] what ++ meaning
  "\n".intercalate (
    [heading "Input:",
      entry .green "<text>" "         Type text and fetch suggestions",
      entry .green "<blank line>" "   Press Enter (commit)",
      "",
      heading "Commands:"] ++
    SessionCommand.all.map (fun c => entry .cyan (nameColumn c) (" " ++ c.summary)) ++
    ["", heading "Operators:" ++ " + - * / ^ ( )"])

def bindings (s : Session) : Except EvalError String :=
  let sorted := s.config.scope.mergeSort fun a b => decide (a.1 ≤ b.1)
  if sorted.isEmpty then .ok (s.palette.paint [.dim] "No variables bound")
  else do
    let lines ← sorted.mapM fun (name, v) => do
      return "  " ++ s.palette.paint [.cyan] name ++ " = " ++ (← v.source)
    return "\n".intercalate lines

/-! Lines -/

def handle (s : Session) (event : InputEvent) : Session :=
  { s with controller := (s.controller.handle false event).1 }

/-- Fetches the suggestions of the live key. -/
def refresh (s : Session) : Noted Session := do
  let (supply, controller, _) ← s.controller.refresh s.supply
  return { s with supply, controller }

/-- Replaces the text and fetches its suggestions. -/
def retype (s : Session) (text : String) : Noted Session := (s.handle (.text text)).refresh

/-- Answers with the picture of the editor. -/
def shown (s : Session) : Noted (LineResult × Session) := do return (.text (← s.render), s)

/-- Does something with the index that a command is given. -/
def withIndex (s : Session) (c : SessionCommand) (argument : String)
    (go : Int → Noted (LineResult × Session)) : Noted (LineResult × Session) :=
  match Decimal.readInt (Text.trim argument) with
  | .ok index => go index
  | .error _ =>
    pure (.text (s.palette.paint [.red] s!"Error: :{c.name} requires a token index"), s)

/-- Runs a command; its argument is what stands behind its name. -/
def run (s : Session) (c : SessionCommand) (argument : String) : Noted (LineResult × Session) :=
  match c with
  | .help => pure (.text s.help, s)
  | .quit => pure (.quit, s)
  | .enter => (s.handle (.key Key.enter.name)).shown
  | .down => (s.handle (.key Key.arrowDown.name)).shown
  | .up => (s.handle (.key Key.arrowUp.name)).shown
  | .esc => (s.handle (.key Key.escape.name)).shown
  | .back => do
    let text := s.editor.text
    if text.isEmpty then (s.handle (.key Key.backspace.name)).shown
    else (← s.retype (String.ofList text.toList.dropLast)).shown
  | .moveTo => s.withIndex c argument fun i => (s.handle (.click i)).shown
  | .del => s.withIndex c argument fun i =>
    (s.handle (.action i TokenAction.delete.name)).shown
  | .edit => s.withIndex c argument fun i => do
    (← (s.handle (.action i TokenAction.edit.name)).refresh).shown
  | .pick => s.withIndex c argument fun i => (s.handle (.select i)).shown
  | .display => s.shown
  | .vars =>
    match s.bindings with
    | .ok text => pure (.text text, s)
    | .error e => pure (.failed e, s)

/-- The first word of a command line, in lower case, and what stands behind it. -/
def splitCommand (line : String) : String × String :=
  let (word, rest) := (line.toList.dropWhile Text.isBlank).span fun c => !Text.isBlank c
  (Text.lower (String.ofList word), String.ofList (rest.dropWhile Text.isBlank))

def unknownCommand (s : Session) (name : String) : String :=
  s.palette.paint [.red] s!"Unknown command: :{name}" ++ "\nType :help for available commands"

def takeLine (s : Session) (line : String) : Noted (LineResult × Session) :=
  match line.toList with
  | ':' :: rest =>
    let (name, argument) := splitCommand (String.ofList rest)
    match SessionCommand.ofName? name with
    | some c => s.run c argument
    | none => pure (.text (s.unknownCommand name), s)
  | _ =>
    if (Text.trim line).isEmpty || line = s.editor.text then
      (s.handle (.key Key.enter.name)).shown
    else do (← s.retype line).shown

/-- Why a wait brought nothing, if that is so. A wait without a result is one for a call whose end is
not reported. -/
def lapseOfWait : Option WaitResult → Option Lapse
  | some (.answered _) => none
  | some .cancelled => some .brokenOff
  | none => some .unreported

/-- How the fetch of a line lapsed, if it did, from the sessions before and behind the line. -/
def lapse? (before after : Session) : Option Lapse :=
  let id := before.controller.refreshCount
  if after.controller.refreshCount = id then none
  else lapseOfWait (after.controller.provider.result? id)

/-- Takes one line and waits for what it fetches. If the fetch lapses, there is no answer to the line. -/
def submit (s : Session) (line : String) : Noted (Except Lapse LineResult × Session) := do
  let (r, after) ← s.takeLine line
  return ((s.lapse? after).elim (.ok r) .error, after)

/-- The texts that a text may be completed to: commands behind a colon, else suggestions and
variables. -/
def completions (s : Session) (text : String) : List String :=
  let options :=
    if text.startsWith ":" then (SessionCommand.all.flatMap SessionCommand.names).map (":" ++ ·)
    else s.editor.suggestions.map (·.name) ++ s.config.scope.map Prod.fst
  Config.sortedNames (options.filter (text.toList.isPrefixOf ·.toList))

end Session

end Formulary

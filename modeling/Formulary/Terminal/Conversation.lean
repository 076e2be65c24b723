import Formulary.Terminal.Session

/-!
Conversations: a session from its greeting to its end. The user sends lines, can interrupt, and leaves
by a command or by the end of the input.
-/

namespace Formulary

def version : String := "0.1.0"

/-- What the user sends. -/
inductive UserInput where
  | line (s : String)
  | interrupt
  | endOfInput
deriving DecidableEq, Repr

/-- How a conversation stands after an input. -/
inductive Progress where
  | going | over
  /-- A value cannot be written. -/
  | failed (e : EvalError)
  /-- The fetch of a line lapsed. -/
  | lapsed (l : Lapse)
deriving DecidableEq, Repr

namespace Session

def greeting (p : Palette) : String :=
  p.paint [.bold] s!"Formula Builder {version}" ++ " - Interactive Mode\n" ++
    "Type " ++ p.paint [.cyan] ":help" ++ " for help, " ++ p.paint [.cyan] ":quit" ++
    " to exit\n\n"

def remark (p : Palette) (s : String) : String := "\n" ++ p.paint [.dim] s ++ "\n"

def farewell (s : Session) : String := remark s.palette "Goodbye!"

def converse (s : Session) (input : UserInput) : Noted (String × Progress × Session) :=
  match input with
  | .interrupt => pure (remark s.palette "Use :quit to exit", .going, s)
  | .endOfInput => pure (s.farewell, .over, s)
  | .line l => do
    match ← s.submit l with
    | (.ok (.text t), s) => return (if t.isEmpty then "" else t ++ "\n", .going, s)
    | (.ok .quit, s) => return (s.farewell, .over, s)
    | (.ok (.failed e), s) => return ("", .failed e, s)
    | (.error l, s) => return ("", .lapsed l, s)

/-- Takes inputs until the conversation is over, with a prompt before each of them; the inputs end
with the end of the input. -/
def transcript (s : Session) : List UserInput → Noted (String × Progress × Session)
  | [] => do
    let (out, progress, s') ← s.converse .endOfInput
    return (s.prompt ++ out, progress, s')
  | input :: rest => do
    let (out, progress, s') ← s.converse input
    match progress with
    | .going =>
      let (more, progress, s'') ← transcript s' rest
      return (s.prompt ++ out ++ more, progress, s'')
    | _ => return (s.prompt ++ out, progress, s')

end Session

end Formulary

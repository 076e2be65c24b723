import Formulary.CommandLine.Call

/-!
The program on a terminal. Nothing is decided here: arguments and environment are handed over, lines
are read, and texts are printed. There is no network client, so an endpoint is always out of reach.
-/

namespace Formulary

open Formulary.CommandLine

def readEnvironment : IO Environment := do
  let names := ["AUTOCOMPLETE_URL", "TIMEOUT", "CACHE_SIZE", "SCOPE", "LOG_LEVEL"]
  names.filterMapM fun name => do
    let full := "FORMULABUILDER_" ++ name
    return (← IO.getEnv full).map fun value => (full, value)

/-- What every endpoint replies. -/
def unreachable (_ : String) : Reply := .refused "the endpoint cannot be reached"

def log (c : Prepared) (notices : List Notice) : IO Unit := do
  for n in c.logged notices do
    IO.eprintln s!"[{n.level.name}] {n.origin}: {n.message}"

def finish (r : Report) : IO UInt32 := do
  IO.print r.out
  IO.eprint r.err
  match r.exit with
  | .ok code => return code.toUInt32
  | .error a =>
    IO.eprintln a.message
    return 1

def readInput : IO UserInput := do
  let line ← (← IO.getStdin).getLine
  if line.isEmpty then return .endOfInput
  else return .line (String.ofList (line.toList.takeWhile (· ≠ '\n')))

partial def converse (c : Prepared) (s : Session) : IO UInt32 := do
  IO.print s.prompt
  (← IO.getStdout).flush
  let turn := s.converse (← readInput)
  log c turn.notices
  let (out, progress, s) := turn.value
  IO.print out
  match progress with
  | .going => converse c s
  | .over => return 0
  | .failed e => finish (.aborted (.value e))
  | .lapsed l => finish (.aborted (.lapsed l))

def run (arguments : List String) : IO UInt32 := do
  let palette := Palette.ofTerminal (← (← IO.getStdout).isTty) (← IO.getEnv "NO_COLOR")
  match prepare arguments (← readEnvironment) palette with
  | .error r => finish r
  | .ok c =>
    match c.invocation.command with
    | .repl =>
      match Session.create c.config palette unreachable with
      | .error e => finish (.aborted (.capacity e))
      | .ok s =>
        IO.print (Session.greeting palette)
        converse c s
    | _ =>
      let r := c.invocation.report c.config palette unreachable []
      log c r.notices
      finish r.value

end Formulary

def main (arguments : List String) : IO UInt32 := Formulary.run arguments

import Formulary.CommandLine.Invocation
import Formulary.Terminal.Conversation

/-!
Calls of the program: from arguments, environment and input to an exit code and what is printed. A
call that is refused says why and exits with code 2, a formula or query that fails exits with code 1,
and a setting that is only found out to be useless when it is used makes the call break off, as a value
does that cannot be displayed.
-/

namespace Formulary.CommandLine

/-- Why a call breaks off without an exit code. -/
inductive Abort where
  | capacity (e : CapacityError)
  /-- The log level is the name of a layout. -/
  | unknownLevel (layout : String)
  /-- The log level is the name of a table of layouts. -/
  | notALevel (layouts : String)
  | value (e : EvalError)
  /-- The fetch of a line lapsed. -/
  | lapsed (l : Lapse)
deriving DecidableEq, Repr

def Abort.message : Abort → String
  | capacity e => e.message
  | unknownLevel layout => s!"Unknown level: {Text.quoted layout}"
  | notALevel layouts => s!"Level not an integer or a valid string: {layouts}"
  | value e => e.message
  | lapsed _ => ""

def logLayout : String := "%(levelname)s:%(name)s:%(message)s"

def logLayouts : String :=
  "\x7b'%': (<class 'logging.PercentStyle'>, '" ++ logLayout ++ "'), " ++
    "'\x7b': (<class 'logging.StrFormatStyle'>, " ++
    "'\x7blevelname\x7d:\x7bname\x7d:\x7bmessage\x7d'), " ++
    "'$': (<class 'logging.StringTemplateStyle'>, " ++
    "'$\x7blevelname\x7d:$\x7bname\x7d:$\x7bmessage\x7d')\x7d"

/-- The least weight of the notices to be logged at a level. A name that is no level counts as that of
warnings, but two names mean something else. -/
def logThreshold (level : String) : Except Abort Nat :=
  match level with
  | "DEBUG" => .ok Level.debug.weight
  | "INFO" => .ok Level.info.weight
  | "ERROR" => .ok Level.error.weight
  | "CRITICAL" | "FATAL" => .ok Level.critical.weight
  | "BASIC_FORMAT" => .error (.unknownLevel logLayout)
  | "_STYLES" => .error (.notALevel logLayouts)
  | _ => .ok Level.warning.weight

structure Report where
  exit : Except Abort Nat := .ok 0
  out : String := ""
  err : String := ""
  /-- The requests sent to the endpoint. -/
  requests : List Request := []

namespace Report

/-- A call that is refused for a misuse or a setting. -/
def refused (err : String) : Report := { exit := .ok 2, err }

def aborted (a : Abort) : Report := { exit := .error a }

end Report

/-- What a call that ends before its command prints. -/
def Stop.report : Stop → Report
  | .help l => { out := l.help }
  | .version => { out := s!"{CommandLevel.program.name} {Formulary.version}\n" }
  | .misuse l m => .refused (l.usage ++ s!"{l.name}: error: {m.message}\n")

def errorLine (p : Palette) (s : String) : String := p.paint [.red] s ++ "\n"

/-- The value of a formula given token by token. -/
def evalReport (c : Config) (p : Palette) (texts : List String) : Report :=
  match Formula.compute c.scope (texts.map Token.ofText) with
  | .ok v =>
    match v.display? with
    | .ok s => { out := s ++ "\n" }
    | .error e => .aborted (.value e)
  | .error e => { exit := .ok 1, err := errorLine p e.message }

def candidateLine (p : Palette) (x : Operand) : String :=
  match x.id with
  | some id => x.name ++ " " ++ p.paint [.dim] s!"({id})" ++ "\n"
  | none => x.name ++ "\n"

def suggestReport (c : Config) (p : Palette) (reply : String → Reply) (query : String) :
    Noted Report :=
  match c.provider with
  | .error e => pure (.aborted (.capacity e))
  | .ok provider => do
    let waiting ← provider.fetch 0 query
    let (supply, provider) ← waiting.advance (c.supply reply)
    let requests := c.requests supply
    match provider.result? 0 with
    | some (.answered (.ok [])) =>
      return { out := p.paint [.dim] "No suggestions" ++ "\n", requests }
    | some (.answered (.ok candidates)) =>
      return { out := String.join (candidates.map (candidateLine p)), requests }
    | some (.answered (.error e)) =>
      return { exit := .ok 1, err := errorLine p s!"Error: {e.message}", requests }
    | _ => return { requests }

/-- The settings, the operators and the known names. -/
def infoReport (c : Config) (p : Palette) : Report :=
  let sorted := c.scope.mergeSort fun a b => decide (a.1 ≤ b.1)
  match sorted.mapM fun (name, v) => do return s!"{name}={← v.source}" with
  | .error e => .aborted (.value e)
  | .ok bindings =>
    let entry := fun (title gap content : String) =>
      "  " ++ p.paint [.cyan] (title ++ ":") ++ gap ++ content ++ "\n"
    let endpoint := match c.endpoint with
      | some url => url
      | none => p.paint [.dim] "(offline)"
    { out := p.paint [.bold] s!"Formula Builder {Formulary.version}" ++ "\n\n" ++
        entry "Endpoint" "   " endpoint ++
        entry "Timeout" "    " (Decimal.source c.timeout ++ "s") ++
        entry "Cache size" " " (toString c.cacheSize) ++
        entry "Scope" "      "
          (if bindings.isEmpty then "(empty)" else ", ".intercalate bindings) ++
        entry "Operators" "  " (" ".intercalate (Config.sortedNames (Operator.all.map (·.symbol)))) ++
        entry "Constants" "  "
          (", ".intercalate (Config.sortedNames (Constant.all.map (·.name)))) ++
        entry "Functions" "  "
          (", ".intercalate (Config.sortedNames (Function.all.map (·.name)))) }

def replReport (c : Config) (p : Palette) (reply : String → Reply) (inputs : List UserInput) :
    Noted Report :=
  match Session.create c p reply with
  | .error e => pure (.aborted (.capacity e))
  | .ok s => do
    let (out, progress, s) ← s.transcript inputs
    let exit := match progress with
      | .failed e => .error (.value e)
      | .lapsed l => .error (.lapsed l)
      | _ => .ok 0
    return { exit, out := Session.greeting p ++ out, requests := c.requests s.supply }

def Invocation.report (i : Invocation) (c : Config) (p : Palette) (reply : String → Reply)
    (inputs : List UserInput) : Noted Report :=
  match i.command with
  | .repl => replReport c p reply inputs
  | .eval => pure (evalReport c p i.operands)
  | .suggest => suggestReport c p reply (i.operands.headD "")
  | .info => pure (infoReport c p)

/-- A call that is ready to run: what to run, with which settings, and the least weight of the notices
to be logged. -/
structure Prepared where
  invocation : Invocation
  config : Config
  threshold : Nat

/-- Reads arguments and environment, or tells what comes of a call that ends there. -/
def prepare (arguments : List String) (env : Environment) (p : Palette) : Except Report Prepared := do
  let invocation ← (Invocation.ofArguments arguments).mapError Stop.report
  let config ← (invocation.config env).mapError fun e =>
    Report.refused (errorLine p s!"Error: {e.message}")
  let threshold ← (logThreshold config.logLevel).mapError Report.aborted
  return { invocation, config, threshold }

/-- The notices that are to be logged. -/
def Prepared.logged (c : Prepared) (notices : List Notice) : List Notice :=
  notices.filter fun n => c.threshold ≤ n.level.weight

/-- The call of the program: its report, and the notices that the log level lets through. -/
def call (arguments : List String) (env : Environment) (p : Palette) (reply : String → Reply)
    (inputs : List UserInput) : Report × List Notice :=
  match prepare arguments env p with
  | .error r => (r, [])
  | .ok c =>
    let r := c.invocation.report c.config p reply inputs
    (r.value, c.logged r.notices)

end Formulary.CommandLine

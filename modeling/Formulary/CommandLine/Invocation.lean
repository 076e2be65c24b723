import Formulary.CommandLine.Layout
import Formulary.Config
import Formulary.Text.Case

/-!
Reading the arguments of a call. Every argument is first told to be a flag or an operand: a flag may
be shortened as long as it stays clear, and may carry its value behind an equals sign. Then flags and
operands are taken from front to back. Arguments that nothing takes are refused in the end, so that
all other errors come first.
-/

namespace Formulary.CommandLine

/-- Why the arguments of a level cannot be read. -/
inductive Misuse where
  | ambiguous (argument : String) (spellings : List String)
  | needlessValue (f : Flag) (value : String)
  | missingValue (f : Flag)
  | badNumber (f : Flag) (value : String)
  | badChoice (argument value : String) (choices : List String)
  | missingOperands (name : String)
  | unrecognized (arguments : List String)
deriving DecidableEq, Repr

def Misuse.message : Misuse → String
  | ambiguous argument spellings =>
    s!"ambiguous option: {argument} could match " ++ ", ".intercalate spellings
  | needlessValue f value =>
    s!"argument {f.title}: ignored explicit argument {Text.quoted value}"
  | missingValue f => s!"argument {f.title}: expected one argument"
  | badNumber f value => s!"argument {f.title}: invalid float value: {Text.quoted value}"
  | badChoice argument value choices =>
    s!"argument {argument}: invalid choice: {Text.quoted value} (choose from " ++
      ", ".intercalate (choices.map Text.quoted) ++ ")"
  | missingOperands name => s!"the following arguments are required: {name}"
  | unrecognized arguments => "unrecognized arguments: " ++ " ".intercalate arguments

/-- Why a call ends before a command is run. -/
inductive Stop where
  | help (l : CommandLevel)
  | version
  | misuse (l : CommandLevel) (m : Misuse)
deriving DecidableEq, Repr

/-- What an argument is told to be. -/
inductive Mark where
  | operand
  /-- The divider behind which there are operands only. -/
  | divider
  /-- A flag, and what stands in one argument with it, after an equals sign or at once. -/
  | flag (f : Flag) (spelling : String) (joined : Option (List Char))
  | unknownFlag
deriving DecidableEq, Repr

namespace Mark

def isFlag : Mark → Bool
  | flag .. | unknownFlag => true
  | operand | divider => false

end Mark

/-- The text before the first equals sign, and what stands behind it. -/
def splitEquals (s : String) : String × Option (List Char) :=
  match s.toList.span (· ≠ '=') with
  | (before, _ :: after) => (String.ofList before, some after)
  | (before, []) => (String.ofList before, none)

def dropDigits (cs : List Char) : List Char := cs.dropWhile fun c => (Text.digitValue? c).isSome

/-- The text is a minus sign and a plain number, so that it is no flag. -/
def isNegativeNumber (s : String) : Bool :=
  let ends := fun (cs : List Char) => cs == [] || cs == ['\n']
  let digits := fun (cs : List Char) => (dropDigits cs).length < cs.length && ends (dropDigits cs)
  match s.toList with
  | '-' :: cs =>
    digits cs ||
      match dropDigits cs with
      | '.' :: rest => digits rest
      | _ => false
  | _ => false

namespace CommandLevel

/-- The flags that an argument may be short for. -/
def candidates (l : CommandLevel) (argument : String) : List (String × Mark) :=
  if argument.startsWith "--" then
    let (start, value?) := splitEquals argument
    l.spellings.filterMap fun (s, f) =>
      if start.toList.isPrefixOf s.toList then some (s, .flag f s value?)
      else none
  else
    l.spellings.filterMap fun (s, f) =>
      if s.toList = argument.toList.take 2 then
        some (s, .flag f s (some (argument.toList.drop 2)))
      else if argument.toList.isPrefixOf s.toList then some (s, .flag f s none)
      else none

/-- What an argument other than the divider is. -/
def mark (l : CommandLevel) (argument : String) : Except Stop Mark :=
  let (start, value?) := splitEquals argument
  if !argument.startsWith "-" then .ok .operand
  else
    match l.flag? argument, value?, l.flag? start with
    | some f, _, _ => .ok (.flag f argument none)
    | none, some value, some f => .ok (.flag f start (some value))
    | none, _, _ =>
      if argument = "-" then .ok .operand
      else
        match l.candidates argument with
        | [(_, m)] => .ok m
        | [] =>
          if isNegativeNumber argument || argument.contains ' ' then .ok .operand
          else .ok .unknownFlag
        | several => .error (.misuse l (.ambiguous argument (several.map Prod.fst)))

/-- Tells what each argument is. Behind the first divider there are operands only. -/
def marks (l : CommandLevel) : List String → Except Stop (List (String × Mark))
  | [] => .ok []
  | a :: rest =>
    if a = "--" then .ok ((a, .divider) :: rest.map fun b => (b, .operand))
    else do
      let m ← l.mark a
      return (a, m) :: (← marks l rest)

end CommandLevel

/-- What has been read at a level. -/
structure Reading where
  endpoint : Option String := none
  timeout : Option Float := none
  bindings : List String := []
  logLevel : Option String := none
  operands : Option (List String) := none
  /-- The arguments that nothing takes. -/
  extras : List String := []

namespace Reading

def setValue (r : Reading) (l : CommandLevel) (f : Flag) (value : String) : Except Stop Reading :=
  match f with
  | .endpoint => .ok { r with endpoint := some value }
  | .timeout =>
    match Decimal.readFloat? value with
    | some x => .ok { r with timeout := some x }
    | none => .error (.misuse l (.badNumber f value))
  | .binding => .ok { r with bindings := r.bindings ++ [value] }
  | .logLevel =>
    let level := Text.upper value
    if level ∈ logLevels then .ok { r with logLevel := some level }
    else .error (.misuse l (.badChoice f.title level logLevels))
  | .help | .version => .ok r

/-- Where a flag without a value leads. -/
def leave (l : CommandLevel) : Flag → Stop
  | .version => .version
  | _ => .help l

/-- Checks what is joined to a flag that takes no value: to a flag of one letter further flags of one
letter may be, and nothing else. -/
def checkJoined (l : CommandLevel) (f : Flag) (short : Bool) : List Char → Except Stop Unit
  | [] => .error (.misuse l (.needlessValue f ""))
  | c :: rest =>
    let refusal := Stop.misuse l (.needlessValue f (String.ofList (c :: rest)))
    if !short then .error refusal
    else
      match l.flag? (String.ofList ['-', c]), rest with
      | none, _ => .error refusal
      | some _, [] => .ok ()
      | some g, d :: more => checkJoined l g true (d :: more)

end Reading

namespace Operands

/-- How many of the arguments are taken as operands, none of them if they do not fit. A command takes
everything behind it. -/
def count (o : Operands) (arguments : List Mark) : Nat :=
  let run := arguments.takeWhile fun m => !m.isFlag
  let first := (run.takeWhile (· = .divider)).length
  if first = run.length then 0
  else
    match o with
    | .none => 0
    | .one .. => first + 1 + ((run.drop (first + 1)).takeWhile (· = .divider)).length
    | .many .. => run.length
    | .command => arguments.length

/-- The values of the arguments taken as operands: the first divider is none of them, unless a command
is read. -/
def values (o : Operands) (arguments : List String) : List String :=
  match o with
  | .command => arguments
  | _ => arguments.erase "--"

def required? : Operands → Option String
  | .one name _ | .many name _ => some name
  | .none | .command => Option.none

end Operands

namespace Reading

/-- Takes operands from the front, once, and tells what is left. -/
def takeOperands (r : Reading) (l : CommandLevel) (arguments : List (String × Mark)) :
    Reading × List (String × Mark) :=
  match r.operands with
  | some _ => (r, arguments)
  | none =>
    let n := l.operands.count (arguments.map Prod.snd)
    if n = 0 then (r, arguments)
    else
      ({ r with operands := some (l.operands.values ((arguments.take n).map Prod.fst)) },
        arguments.drop n)

/-- Reads the arguments from front to back. As long as a flag is still to come, operands are taken
before it, and what nothing takes is left over; `fuel` bounds the number of rounds. -/
def readFrom (l : CommandLevel) (fuel : Nat) (r : Reading) (arguments : List (String × Mark)) :
    Except Stop Reading :=
  match fuel with
  | 0 => .ok r
  | fuel + 1 =>
    match arguments with
    | (a, .unknownFlag) :: rest => readFrom l fuel { r with extras := r.extras ++ [a] } rest
    | (_, .flag f spelling joined) :: rest =>
      match f.value?, joined, rest with
      | some _, some j, _ => do
        readFrom l fuel (← r.setValue l f (String.ofList j)) rest
      | some _, none, (value, .operand) :: rest => do
        readFrom l fuel (← r.setValue l f value) rest
      | some _, none, _ => .error (.misuse l (.missingValue f))
      | none, none, _ => .error (leave l f)
      | none, some j, _ => do
        checkJoined l f (!spelling.startsWith "--") j
        .error (leave l f)
    | _ =>
      let (r', rest) := r.takeOperands l arguments
      if rest.length < arguments.length then readFrom l fuel r' rest
      else
        let (idle, rest) := arguments.span fun (_, m) => !m.isFlag
        let r := { r with extras := r.extras ++ idle.map Prod.fst }
        if rest.isEmpty then .ok r else readFrom l fuel r rest

def ofArguments (l : CommandLevel) (arguments : List String) : Except Stop Reading := do
  let marked ← l.marks arguments
  let r ← readFrom l (2 * arguments.length + 1) {} marked
  match l.operands.required?, r.operands with
  | some name, none => .error (.misuse l (.missingOperands name))
  | _, _ => return r

end Reading

/-- A call of the program: a command with its operands and the settings that its flags make. -/
structure Invocation where
  command : Command
  operands : List String
  endpoint : Option String
  timeout : Option Float
  bindings : List String
  logLevel : Option String

/-- Reads the arguments of a call; without a command there is only help to give. -/
def Invocation.ofArguments (arguments : List String) : Except Stop Invocation := do
  let outer ← Reading.ofArguments .program arguments
  let refuse := fun (extras : List String) => Stop.misuse .program (.unrecognized extras)
  match outer.operands with
  | none | some [] =>
    if outer.extras.isEmpty then .error (.help .program) else .error (refuse outer.extras)
  | some (name :: rest) =>
    match Command.ofName? name with
    | none => .error (.misuse .program (.badChoice "command" name Command.choices))
    | some command =>
      let r ← Reading.ofArguments (.command command) rest
      let extras := outer.extras ++ r.extras
      if extras.isEmpty then
        return {
          command
          operands := r.operands.getD []
          endpoint := r.endpoint
          timeout := r.timeout
          bindings := r.bindings
          logLevel := r.logLevel }
      else .error (refuse extras)

/-- The settings of a call: those of the environment, overridden by the flags. -/
def Invocation.config (i : Invocation) (env : Environment) : Except SettingError Config := do
  let c ← Config.ofEnvironment env
  let scope ← if i.bindings.isEmpty then pure c.scope else Config.readScope i.bindings
  return {
    c with
    endpoint := if (i.endpoint.getD "").isEmpty then c.endpoint else i.endpoint
    timeout := i.timeout.getD c.timeout
    scope
    logLevel := i.logLevel.getD c.logLevel }

end Formulary.CommandLine

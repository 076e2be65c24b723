/-!
What the command line knows: commands, flags and operands. A level is a place where arguments are
read, the program itself or one of its commands; it has its own flags and operands.
-/

namespace Formulary.CommandLine

inductive Flag where
  | help | version | endpoint | timeout | binding | logLevel
deriving DecidableEq, Repr

/-- The names of the log levels that the command line accepts. -/
def logLevels : List String := ["DEBUG", "INFO", "WARNING", "ERROR"]

namespace Flag

def spellings : Flag → List String
  | help => ["-h", "--help"]
  | version => ["-V", "--version"]
  | endpoint => ["--endpoint"]
  | timeout => ["--timeout"]
  | binding => ["--var"]
  | logLevel => ["--log-level"]

/-- What the value of a flag is called, if it takes one. -/
def value? : Flag → Option String
  | help | version => none
  | endpoint => some "URL"
  | timeout => some "SECONDS"
  | binding => some "NAME=VALUE"
  | logLevel => some ("\x7b" ++ ",".intercalate logLevels ++ "\x7d")

def summary : Flag → String
  | help => "show this help message and exit"
  | version => "show program's version number and exit"
  | endpoint =>
    "Autocomplete endpoint (default: $FORMULABUILDER_AUTOCOMPLETE_URL, else offline)"
  | timeout => "Autocomplete request timeout"
  | binding => "Bind a variable for evaluation (repeatable, replaces the default scope)"
  | logLevel => "Logging level"

/-- A flag as it is named in errors. -/
def title (f : Flag) : String := "/".intercalate f.spellings

end Flag

inductive Command where
  | repl | eval | suggest | info
deriving DecidableEq, Repr

namespace Command

def all : List Command := [repl, eval, suggest, info]

def name : Command → String
  | repl => "repl"
  | eval => "eval"
  | suggest => "suggest"
  | info => "info"

def alias? : Command → Option String
  | repl => some "i"
  | eval => some "e"
  | suggest | info => none

def names (c : Command) : List String := c.name :: c.alias?.toList

def summary : Command → String
  | repl => "Start the interactive formula builder"
  | eval => "Evaluate a formula given as separate tokens"
  | suggest => "Fetch autocomplete suggestions for a query"
  | info => "Show the effective configuration"

def ofName? (s : String) : Option Command := all.find? fun c => s ∈ c.names

def choices : List String := all.flatMap names

end Command

/-- What a level takes besides flags. -/
inductive Operands where
  | none
  | one (name summary : String)
  /-- One or more. -/
  | many (name summary : String)
  /-- A command and everything behind it. -/
  | command
deriving DecidableEq, Repr

/-- The program, or one of its commands. -/
inductive CommandLevel where
  | program
  | command (c : Command)
deriving DecidableEq, Repr

namespace CommandLevel

def name : CommandLevel → String
  | program => "formula-builder"
  | command c => "formula-builder " ++ c.name

def description? : CommandLevel → Option String
  | program => some "Formula Builder - compose formulas from tokens with live autocomplete"
  | command _ => none

def flags : CommandLevel → List Flag
  | program => [.help, .version]
  | command _ => [.help, .endpoint, .timeout, .binding, .logLevel]

def operands : CommandLevel → Operands
  | program => .command
  | command .eval => .many "tokens" "Tokens of the formula, e.g. 3 + x"
  | command .suggest => .one "query" "Text to complete"
  | command .repl | command .info => .none

def spellings (l : CommandLevel) : List (String × Flag) :=
  l.flags.flatMap fun f => f.spellings.map fun s => (s, f)

def flag? (l : CommandLevel) (spelling : String) : Option Flag := l.spellings.lookup spelling

end CommandLevel

end Formulary.CommandLine

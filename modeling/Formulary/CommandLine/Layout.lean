import Formulary.CommandLine.Flag

/-!
The layout of usage and help texts. Lines are filled greedily up to a width; a summary stands in a
column of its own, next to what it is about if that is short enough, else below it.
-/

namespace Formulary.CommandLine

def lineWidth : Nat := 78

def summaryColumn : Nat := 24

def spaces (n : Nat) : String := String.ofList (List.replicate n ' ')

/-- Fills lines with parts and single spaces between them. `used` is what of the current line is taken
already, and `line` its parts, the last one first; every new line starts at the column `indent`. -/
def fill (width indent used : Nat) (line : List String) : List String → List String
  | [] => if line.isEmpty then [] else [" ".intercalate line.reverse]
  | part :: rest =>
    if used + part.length > width && !line.isEmpty then
      " ".intercalate line.reverse :: fill width indent (indent + part.length + 1) [part] rest
    else fill width indent (used + part.length + 1) (part :: line) rest

def wrap (width : Nat) (s : String) : List String := fill width 0 0 [] (s.splitOn " ")

def flagUsage (f : Flag) : String :=
  let spelling := f.spellings.headD ""
  match f.value? with
  | some v => s!"[{spelling} {v}]"
  | none => s!"[{spelling}]"

def commandChoice : String := "\x7b" ++ ",".intercalate Command.choices ++ "\x7d"

def operandUsage : Operands → List String
  | .none => []
  | .one name _ => [name]
  | .many name _ => [name, s!"[{name} ...]"]
  | .command => [commandChoice, "..."]

namespace CommandLevel

/-- How the level is used: in one line if it fits, else flags first and operands on a new line, all
below the first flag. -/
def usage (l : CommandLevel) : String :=
  let flags := l.flags.map flagUsage
  let operands := operandUsage l.operands
  let start := "usage: "
  let whole := " ".intercalate (l.name :: flags ++ operands)
  if start.length + whole.length ≤ lineWidth then start ++ whole ++ "\n"
  else
    let indent := start.length + l.name.length + 1
    let flagLines := fill lineWidth indent start.length [] (l.name :: flags)
    let operandLines := fill lineWidth indent indent [] operands
    let lines := match flagLines ++ operandLines with
      | [] => []
      | first :: rest => (start ++ first) :: rest.map (spaces indent ++ ·)
    "\n".intercalate lines ++ "\n"

def entry (indent : Nat) (subject summary : String) : List String :=
  let lines := wrap (lineWidth - summaryColumn) summary
  let head := spaces indent ++ subject
  if subject.length + indent + 2 ≤ summaryColumn then
    match lines with
    | [] => [head]
    | first :: rest =>
      (head ++ spaces (summaryColumn - head.length) ++ first) ::
        rest.map (spaces summaryColumn ++ ·)
  else head :: lines.map (spaces summaryColumn ++ ·)

def flagEntry (f : Flag) : List String :=
  let subjects := match f.value? with
    | some v => f.spellings.map fun s => s!"{s} {v}"
    | none => f.spellings
  entry 2 (", ".intercalate subjects) f.summary

def commandEntry (c : Command) : List String :=
  let subject := match c.alias? with
    | some a => s!"{c.name} ({a})"
    | none => c.name
  entry 4 subject c.summary

def operandEntries : Operands → List String
  | .none => []
  | .one name summary | .many name summary => entry 2 name summary
  | .command => entry 2 commandChoice "Available commands" ++ Command.all.flatMap commandEntry

/-- A section of a help text, with an empty line before it; a section without entries is left out. -/
def helpSection (title : String) (lines : List String) : String :=
  if lines.isEmpty then "" else s!"\n{title}:\n" ++ "\n".intercalate lines ++ "\n"

def help (l : CommandLevel) : String :=
  let description := match l.description? with
    | some d => s!"\n{d}\n"
    | none => ""
  l.usage ++ description ++ helpSection "positional arguments" (operandEntries l.operands) ++
    helpSection "options" (l.flags.flatMap flagEntry)

end CommandLevel

end Formulary.CommandLine

import Formulary.Expr.Grammar
import Formulary.Text.Blank

/-!
Texts as sequences of statements. Only the value of the first statement matters, but the whole text
must be well formed. A text that is not is parsed a second time, carefully, to say what is wrong.
-/

namespace Formulary.Expr

open Formulary.Expr.Parser Formulary.Expr.Grammar

/-- The signs that assign the result of an operation. -/
def augmented : List String :=
  ["+=", "-=", "*=", "/=", "//=", "%=", "@=", "&=", "|=", "^=", "<<=", ">>=", "**="]

/-- Careful: says why a value cannot be assigned to. -/
def refuseTarget (fuel line : Nat) (value : Expr) : Parser Unit := do
  match invalidTarget? value with
  | none => return ()
  | some bad =>
    match equationFault value with
    | some (.badTargetHere what) =>
      match ← probe (do
          let _ ← take
          let _ ← operation true fuel 4
          return !(← atSymbol "=") && !(← atSymbol ":=")) with
      | some (true, _) => refuse (.badTargetHere what) line
      | _ => refuse (.badTarget (targetName bad)) line
    | _ => refuse (.badTarget (targetName bad)) line

/-- What follows the targets of an assignment, from the sign on. -/
def assigned (careful : Bool) (fuel : Nat) : Nat → Expr → Parser Statement
  | 0, _ => stuck
  | steps + 1, left => do
    let line := (← look).line
    if ← atSymbol "=" then
      if careful then refuseTarget fuel line left
      if (invalidTarget? left).isSome then stuck
      let _ ← take
      assigned careful fuel steps (← starExpressions careful fuel)
    else return .value left

def nameList (between : String) : Nat → Parser Unit
  | 0 => stuck
  | fuel + 1 => do
    let _ ← parameterName
    if ← acceptSymbol between then nameList between fuel else return ()

def importedAs : Parser Unit := do
  if ← acceptWord "as" then
    let _ ← parameterName

def imports (dotted : Bool) : Nat → Parser Unit
  | 0 => stuck
  | fuel + 1 => do
    if dotted then nameList "." fuel
    else
      let _ ← parameterName
    importedAs
    if ← acceptSymbol "," then imports dotted fuel else return ()

/-- An expression unless the statement ends here. -/
def optionalValue (careful : Bool) (fuel : Nat) : Parser Unit := do
  let l ← look
  if l.lexeme = .newline || l.lexeme = .symbol ";" then return ()
  else
    let _ ← starExpressions careful fuel

def wordStatement? (careful : Bool) (fuel : Nat) : Parser (Option Statement) := do
  let form := fun (name : String) => (return some (Statement.form name) : Parser (Option Statement))
  if ← acceptWord "pass" then form "Pass"
  else if ← acceptWord "break" then form "Break"
  else if ← acceptWord "continue" then form "Continue"
  else if ← acceptWord "return" then
    optionalValue careful fuel
    form "Return"
  else if ← acceptWord "raise" then
    optionalValue careful fuel
    form "Raise"
  else if ← acceptWord "del" then
    let e ← starExpressions careful fuel
    if (invalidTarget? e).isSome then stuck
    form "Delete"
  else if ← acceptWord "assert" then
    let _ ← expression careful fuel
    if ← acceptSymbol "," then
      let _ ← expression careful fuel
    form "Assert"
  else if ← acceptWord "global" then
    nameList "," fuel
    form "Global"
  else if ← acceptWord "nonlocal" then
    nameList "," fuel
    form "Nonlocal"
  else if ← acceptWord "import" then
    imports true fuel
    return some .importing
  else if ← acceptWord "from" then
    nameList "." fuel
    expectWord "import"
    if ← acceptSymbol "*" then form "ImportFrom"
    else
      imports false fuel
      form "ImportFrom"
  else return none

def statement (careful : Bool) (fuel : Nat) : Parser Statement := do
  match ← wordStatement? careful fuel with
  | some s => return s
  | none =>
    let l ← look
    let left ← starExpressions careful fuel
    match (← look).lexeme with
    | .symbol s =>
      if s = "=" then assigned careful fuel fuel left
      else if augmented.contains s then
        if isSingleTarget left then
          let _ ← take
          return .value (← starExpressions careful fuel)
        else if careful then
          match ← probe (do
              let _ ← take
              starExpressions careful fuel) with
          | some _ => refuse (.badAugmented (targetName left)) l.line
          | none => stuck
        else stuck
      else if s = ":" && isSingleTarget left then
        let _ ← take
        let _ ← expression careful fuel
        if ← acceptSymbol "=" then
          let _ ← starExpressions careful fuel
        return .form "AnnAssign"
      else return .value left
    | _ => return .value left

def statementLine (careful : Bool) (fuel : Nat) : Nat → Parser (List Statement)
  | 0 => stuck
  | steps + 1 => do
    let s ← statement careful fuel
    if ← acceptSymbol ";" then
      if (← look).lexeme = .newline then
        let _ ← take
        return [s]
      else return s :: (← statementLine careful fuel steps)
    else if (← look).lexeme = .newline then
      let _ ← take
      return [s]
    else stuck

def statements (careful : Bool) (fuel : Nat) : Nat → Parser (List Statement)
  | 0 => stuck
  | steps + 1 => do
    match (← look).lexeme with
    | .finish => return []
    | _ =>
      let line ← statementLine careful fuel fuel
      return line ++ (← statements careful fuel steps)

/-- A fault of the lexemes that comes later in the text, where it goes before another report. -/
def Lexed.override (l : Lexed) (r : Report) : Report :=
  match l.fault with
  | some f =>
    if f.fault.hard then f
    else
      match f.fault with
      | .neverClosed _ => if f.line < r.line then f else r
      | _ => r
  | none => r

/-- What is reported when the lexemes ran out. -/
def Lexed.exhausted (l : Lexed) : Report := l.fault.getD ⟨.unexpected, 1⟩

/-- The statements of a text, or what is wrong with it. -/
def parse (text : List Char) : Except Report (List Statement) :=
  let lexed := lex text
  let fuel := 24 * lexed.lexemes.length + 24
  match statements false fuel fuel lexed.lexemes with
  | .ok ss _ => .ok ss
  | .refused r => .error (lexed.override r)
  | .stuck [] => .error lexed.exhausted
  | .stuck (l :: _) =>
    match statements true fuel fuel lexed.lexemes with
    | .refused r => .error (lexed.override r)
    | .stuck [] => .error lexed.exhausted
    | _ =>
      if l.lexeme = .indent then .error ⟨.indented, l.line⟩
      else .error (lexed.override ⟨.unexpected, l.line⟩)

end Formulary.Expr

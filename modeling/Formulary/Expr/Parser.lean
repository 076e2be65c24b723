import Formulary.Expr.Lexeme

/-!
Parsers over lexemes. A parser answers with a value and what is left, or is stuck at a lexeme that
does not fit, or refuses the text for a reason of its own. Being stuck with nothing left means that
the splitting into lexemes had stopped there.
-/

namespace Formulary.Expr

inductive Reply (α : Type) where
  | ok (a : α) (rest : List Located)
  | stuck (rest : List Located)
  | refused (r : Report)

def Parser (α : Type) := List Located → Reply α

namespace Parser

variable {α β : Type}

protected def pure (a : α) : Parser α := fun ls => .ok a ls

protected def bind (p : Parser α) (f : α → Parser β) : Parser β := fun ls =>
  match p ls with
  | .ok a rest => f a rest
  | .stuck rest => .stuck rest
  | .refused r => .refused r

instance : Monad Parser where
  pure := Parser.pure
  bind := Parser.bind

def stuck : Parser α := fun ls => .stuck ls

def refuse (f : Fault) (line : Nat) : Parser α := fun _ => .refused ⟨f, line⟩

/-- The next lexeme, left in place. -/
def look : Parser Located := fun ls =>
  match ls with
  | [] => .stuck []
  | l :: _ => .ok l ls

def take : Parser Located := fun ls =>
  match ls with
  | [] => .stuck []
  | l :: rest => .ok l rest

def remaining : Parser (List Located) := fun ls => .ok ls ls

def lookSecond : Parser Lexeme := fun ls =>
  match ls with
  | _ :: l :: _ => .ok l.lexeme ls
  | _ => .stuck []

def atSymbol (s : String) : Parser Bool := do return (← look).lexeme = .symbol s

/-- The next lexeme is a word of the language. -/
def atWord (w : String) : Parser Bool := do return (← look).lexeme = .name w.toList

/-- Takes a symbol if it is next. -/
def acceptSymbol (s : String) : Parser Bool := do
  if ← atSymbol s then
    let _ ← take
    return true
  else return false

def acceptWord (w : String) : Parser Bool := do
  if ← atWord w then
    let _ ← take
    return true
  else return false

def expectSymbol (s : String) : Parser Unit := do
  if ← acceptSymbol s then return () else stuck

def expectWord (w : String) : Parser Unit := do
  if ← acceptWord w then return () else stuck

/-- Tries a parser from here on and stays in place; being stuck in the text is no answer, but
running out of lexemes or being refused ends the parse. -/
def probe (p : Parser α) : Parser (Option (α × List Located)) := fun ls =>
  match p ls with
  | .ok a rest => .ok (some (a, rest)) ls
  | .stuck [] => .stuck []
  | .stuck _ => .ok none ls
  | .refused r => .refused r

/-- Goes on with a parser if it is not stuck in the text, and else stays in place; only a careful parse
goes back like that. -/
def continuing (careful : Bool) (p : Parser α) : Parser (Option α) := fun ls =>
  match p ls with
  | .ok a rest => .ok (some a) rest
  | .stuck [] => .stuck []
  | .stuck rest => if careful then .ok none ls else .stuck rest
  | .refused r => .refused r

end Parser

end Formulary.Expr

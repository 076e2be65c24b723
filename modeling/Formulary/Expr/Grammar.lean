import Formulary.Expr.Basic
import Formulary.Expr.Parser
import Formulary.Expr.Quotation
import Formulary.Text.Compose

/-!
The grammar of expressions. The operators bind, from loosest to tightest: `or`, `and`, `not`,
comparisons, `|`, `^`, `&`, shifts, sums, products, signs, powers, and what follows a value.

Every parser here has a careful form. It accepts the same texts, and where a text is no expression
it looks further to say what is wrong.
-/

namespace Formulary.Expr.Grammar

open Formulary.Expr.Parser

def reservedWords : List String :=
  ["False", "None", "True", "and", "as", "assert", "async", "await", "break", "class", "continue",
    "def", "del", "elif", "else", "except", "finally", "for", "from", "global", "if", "import",
    "in", "is", "lambda", "nonlocal", "not", "or", "pass", "raise", "return", "try", "while",
    "with", "yield"]

def isReserved (cs : List Char) : Bool := reservedWords.contains (String.ofList cs)

/-- The name that a lexeme writes, in composed form. -/
def nameOf? : Lexeme → Option String
  | .name cs => if isReserved cs then none else some (Text.normalize (String.ofList cs))
  | _ => none

/-- The operators of the levels from `|` to products. -/
def binaryAt (level : Nat) (l : Lexeme) : Option BinaryOp :=
  match l with
  | .symbol s =>
    match level with
    | 4 => if s = "|" then some .bitOr else none
    | 5 => if s = "^" then some .bitXor else none
    | 6 => if s = "&" then some .bitAnd else none
    | 7 => if s = "<<" then some .shiftLeft else if s = ">>" then some .shiftRight else none
    | 8 => if s = "+" then some .add else if s = "-" then some .sub else none
    | 9 =>
      if s = "*" then some .mul else if s = "/" then some .div
      else if s = "//" then some .floorDiv else if s = "%" then some .mod
      else if s = "@" then some .matMul else none
    | _ => none
  | _ => none

def signAt (l : Lexeme) : Option UnaryOp :=
  match l with
  | .symbol s =>
    if s = "+" then some .plus else if s = "-" then some .negate
    else if s = "~" then some .invert else none
  | _ => none

def comparisonOf (s : String) : Option CompareOp :=
  match s with
  | "==" => some .eq
  | "!=" => some .ne
  | "<" => some .lt
  | "<=" => some .le
  | ">" => some .gt
  | ">=" => some .ge
  | _ => none

/-- Takes a comparison sign of one or two words, if one is next. -/
def acceptComparison : Parser (Option CompareOp) := do
  match (← look).lexeme with
  | .symbol s =>
    match comparisonOf s with
    | some op =>
      let _ ← take
      return some op
    | none => return none
  | .name cs =>
    if cs = "in".toList then
      let _ ← take
      return some .within
    else if cs = "is".toList then
      let _ ← take
      if ← acceptWord "not" then return some .notSame else return some .same
    else if cs = "not".toList then
      let _ ← take
      expectWord "in"
      return some .notWithin
    else return none
  | _ => return none

/-- The value of a numeral, or how many digits it has too many to be read. -/
def numeralLiteral (cs : List Char) : Except Nat Literal :=
  let ds := cs.filter (· ≠ '_')
  match ds with
  | '0' :: 'x' :: rest => .ok (.int (Decimal.ofDigits 16 rest))
  | '0' :: 'o' :: rest => .ok (.int (Decimal.ofDigits 8 rest))
  | '0' :: 'b' :: rest => .ok (.int (Decimal.ofDigits 2 rest))
  | _ =>
    let real := fun (cs : List Char) =>
      ((Decimal.splitParts? cs).map (Decimal.Parts.toFloat false)).getD 0
    match ds.getLast? with
    | some 'j' => .ok (.imaginary (real ds.dropLast))
    | some 'J' => .ok (.imaginary (real ds.dropLast))
    | _ =>
      if ds.all Char.isDigit then
        if Decimal.maxIntegerDigits < ds.length then .error ds.length
        else .ok (.int (Decimal.ofDigits 10 ds))
      else .ok (.float (real ds))

/-- Takes the quoted texts that stand next to each other. -/
def takeTexts : Nat → Parser (List (List Char))
  | 0 => return []
  | fuel + 1 => do
    match (← look).lexeme with
    | .text cs =>
      let _ ← take
      return cs :: (← takeTexts fuel)
    | _ => return []

/-- The depth behind the last lexeme that a parser took. -/
def depthBehind (before after : List Located) : Nat :=
  match (before.take (before.length - after.length)).getLast? with
  | some l => l.depth
  | none => 0

/-- Words that a careful parse does not take for the start of a forgotten comma. -/
def isSoftWord (cs : List Char) : Bool :=
  ["_", "case", "match"].contains (String.ofList cs)

/-- Names that were once statements. -/
def isOldStatement (e : Expr) : Bool :=
  match e with
  | .name s => s = "print" || s = "exec"
  | _ => false

/-- The start of an expression does not look like two values side by side. -/
def commaAllowed (ls : List Located) : Bool :=
  match ls with
  | ⟨.name cs, _, _⟩ :: ⟨.text _, _, _⟩ :: _ => isReserved cs
  | ⟨.name cs, _, _⟩ :: _ => !isSoftWord cs
  | _ => true

def lineOf (ls : List Located) : Nat :=
  match ls with
  | l :: _ => l.line
  | [] => 1

/-- Next is a sign that goes on with a value and could start one as well. As the value has not gone on
with it, nothing that fits stands behind it. -/
def atRefusedSign : Parser Bool := do
  match (← look).lexeme with
  | .symbol s => return ["+", "-", "*"].contains s
  | _ => return false

/-- Careful: refuses two values side by side inside brackets. -/
def checkComma (start : List Located) (value : Expr) (next : Parser Expr) : Parser Unit := do
  if commaAllowed start && !(← atRefusedSign) then
    let here ← remaining
    match ← probe next with
    | some (_, rest) =>
      if !isOldStatement value && depthBehind here rest ≠ 0 then
        refuse .missingComma (lineOf start)
    | none => return ()

/-- Careful: refuses a former statement word in front of its operands, and looks at what stands
behind any other name. -/
def checkOldStatement (start : List Located) (value : Expr) (next : Parser Expr) : Parser Unit := do
  match value, start with
  | .name s, ⟨.name _, line, _⟩ :: behind =>
    let here ← remaining
    if here.length = behind.length then
      if (← atSymbol "(") || (← atRefusedSign) then return ()
      else
        match ← probe next with
        | some _ => if isOldStatement value then refuse (.missingCallParentheses s) line
        | none => return ()
  | _, _ => return ()

/-- How a value may be equated inside brackets: never, and the reason depends on the value. -/
def equationFault (value : Expr) : Option Fault :=
  match value with
  | .name _ => some .equalsInGroup
  | .display .tuple _ | .display .list _ | .form "GeneratorExp" => none
  | .literal (.bool _) | .literal .none => none
  | .both .. | .either .. | .compare .. | .choice .. | .form "Lambda" => none
  | .unary .not _ => none
  | e => some (.badTargetHere (targetName e))

/-- A name with a sign behind it is next. What follows is looked at only behind a name. -/
def nameBefore (sign : String) : Parser Bool := do
  match nameOf? (← look).lexeme with
  | some _ => return (← lookSecond) = .symbol sign
  | none => return false

def checkEquation (line : Nat) (value : Expr) (side : Parser Expr) : Parser Unit := do
  if ← atSymbol "=" then
    match equationFault value with
    | some f =>
      match ← probe (do
          let _ ← take
          let _ ← side
          return !(← atSymbol "=") && !(← atSymbol ":=")) with
      | some (true, _) => refuse f line
      | _ => return ()
    | none => return ()

/-- Takes a name. -/
def parameterName : Parser String := do
  match nameOf? (← look).lexeme with
  | some s =>
    let _ ← take
    return s
  | none => stuck

def endsList (l : Lexeme) : Bool :=
  match l with
  | .newline | .finish | .indent => true
  | .symbol s =>
    !(["(", "[", "\x7b", "+", "-", "~", "*", "..."].contains s)
  | .name cs =>
    isReserved cs && !(["None", "True", "False", "not", "lambda"].contains (String.ofList cs))
  | _ => false

mutual

/-- A conditional, a function or an operation. -/
def expression (careful : Bool) : Nat → Parser Expr
  | 0 => stuck
  | fuel + 1 => do
    if ← acceptWord "lambda" then
      let _ ← parameters careful fuel
      expectSymbol ":"
      let _ ← expression careful fuel
      return .form "Lambda"
    else
      let start ← remaining
      let value ← operation careful fuel 0
      if careful then
        checkComma start value (expression false fuel)
      if ← atWord "if" then
        let choice? ← continuing careful (do
          let _ ← take
          let test ← operation careful fuel 0
          if careful then
            if !(← atWord "else") && !(← atSymbol ":") then refuse .missingElse (lineOf start)
          expectWord "else"
          let other ← expression careful fuel
          return Expr.choice test value other)
        match choice? with
        | some e => return e
        | none => return value
      else
        if careful then
          checkOldStatement start value (starExpressions careful fuel)
        return value

def parameters (careful : Bool) : Nat → Parser Unit
  | 0 => stuck
  | fuel + 1 => do
    if ← atSymbol ":" then return ()
    else
      if ← acceptSymbol "*" then
        if (nameOf? (← look).lexeme).isSome then
          let _ ← take
      else if ← acceptSymbol "**" then
        let _ ← parameterName
      else if ← acceptSymbol "/" then
        return ← parameterEnd careful fuel
      else
        let _ ← parameterName
        if ← acceptSymbol "=" then
          let _ ← expression careful fuel
      parameterEnd careful fuel

def parameterEnd (careful : Bool) : Nat → Parser Unit
  | 0 => stuck
  | fuel + 1 => do if ← acceptSymbol "," then parameters careful fuel else return ()

/-- An operation of a level; zero is the loosest. -/
def operation (careful : Bool) : Nat → Nat → Parser Expr
  | 0, _ => stuck
  | fuel + 1, 0 => do orTail careful fuel (← operation careful fuel 1)
  | fuel + 1, 1 => do andTail careful fuel (← operation careful fuel 2)
  | fuel + 1, 2 => do
    if ← acceptWord "not" then return .unary .not (← operation careful fuel 2)
    else operation careful fuel 3
  | fuel + 1, 3 => do
    let first ← operation careful fuel 4
    let rest ← comparisons careful fuel
    return if rest.isEmpty then first else .compare first rest
  | fuel + 1, level + 4 =>
    if level < 6 then do
      binaryTail careful fuel (level + 4) (← operation careful fuel (level + 5))
    else do
      match signAt (← look).lexeme with
      | some op =>
        let _ ← take
        return .unary op (← operation careful fuel 10)
      | none =>
        let base ← primary careful fuel
        if ← atSymbol "**" then
          let exponent? ← continuing careful (do
            let _ ← take
            operation careful fuel 10)
          match exponent? with
          | some exponent => return .binary .power base exponent
          | none => return base
        else return base

def orTail (careful : Bool) : Nat → Expr → Parser Expr
  | 0, _ => stuck
  | fuel + 1, left => do
    if ← atWord "or" then
      let right? ← continuing careful (do
        let _ ← take
        operation careful fuel 1)
      match right? with
      | some right => orTail careful fuel (.either left right)
      | none => return left
    else return left

def andTail (careful : Bool) : Nat → Expr → Parser Expr
  | 0, _ => stuck
  | fuel + 1, left => do
    if ← atWord "and" then
      let right? ← continuing careful (do
        let _ ← take
        operation careful fuel 2)
      match right? with
      | some right => andTail careful fuel (.both left right)
      | none => return left
    else return left

def comparisons (careful : Bool) : Nat → Parser (List (CompareOp × Expr))
  | 0 => stuck
  | fuel + 1 => do
    let next? ← continuing careful (do
      match ← acceptComparison with
      | some op => return some (op, ← operation careful fuel 4)
      | none => return none)
    match next? with
    | some (some next) => return next :: (← comparisons careful fuel)
    | _ => return []

/-- Operators of one level group to the left. -/
def binaryTail (careful : Bool) : Nat → Nat → Expr → Parser Expr
  | 0, _, _ => stuck
  | fuel + 1, level, left => do
    match binaryAt level (← look).lexeme with
    | some op =>
      let right? ← continuing careful (do
        let _ ← take
        operation careful fuel (level + 1))
      match right? with
      | some right => binaryTail careful fuel level (.binary op left right)
      | none => return left
    | none => return left

/-- A value and what follows it. -/
def primary (careful : Bool) : Nat → Parser Expr
  | 0 => stuck
  | fuel + 1 => do trailers careful fuel (← atom careful fuel)

def trailers (careful : Bool) : Nat → Expr → Parser Expr
  | 0, _ => stuck
  | fuel + 1, e => do
    if ← acceptSymbol "." then
      match nameOf? (← look).lexeme with
      | some s =>
        let _ ← take
        trailers careful fuel (.attribute e s)
      | none => stuck
    else if ← atSymbol "(" then
      let call? ← continuing careful (do
        let _ ← take
        let (args, named) ← arguments careful fuel false
        expectSymbol ")"
        return Expr.call e args named)
      match call? with
      | some called => trailers careful fuel called
      | none => return e
    else if ← atSymbol "[" then
      let item? ← continuing careful (do
        let _ ← take
        let index ← slices careful fuel
        expectSymbol "]"
        return Expr.item e index)
      match item? with
      | some part => trailers careful fuel part
      | none => return e
    else return e

def atom (careful : Bool) : Nat → Parser Expr
  | 0 => stuck
  | fuel + 1 => do
    let l ← look
    match l.lexeme with
    | .name cs =>
      if isReserved cs then
        if cs = "True".toList then
          let _ ← take
          return .literal (.bool true)
        else if cs = "False".toList then
          let _ ← take
          return .literal (.bool false)
        else if cs = "None".toList then
          let _ ← take
          return .literal .none
        else stuck
      else
        let _ ← take
        return .name (Text.normalize (String.ofList cs))
    | .numeral cs =>
      let _ ← take
      match numeralLiteral cs with
      | .ok v => return .literal v
      | .error count => refuse (.tooManyDigits count) l.line
    | .text _ =>
      let texts ← takeTexts fuel
      quotation careful fuel l.line texts
    | .symbol "(" =>
      let _ ← take
      group careful fuel
    | .symbol "[" =>
      let _ ← take
      bracketed careful fuel "]" .list "ListComp"
    | .symbol "\x7b" =>
      let _ ← take
      braced careful fuel
    | .symbol "..." =>
      let _ ← take
      return .literal .ellipsis
    | _ => stuck

/-- Texts side by side are one text; with replacements it is put together from parts. -/
def quotation (careful : Bool) : Nat → Nat → List (List Char) → Parser Expr
  | 0, _, _ => stuck
  | fuel + 1, line, texts =>
    match Quotation.read texts with
    | .error f => refuse f line
    | .ok pieces =>
      match Quotation.plainText? pieces with
      | some s => return .literal (.text s)
      | none => do
        if Quotation.isBytes pieces then return .form "Bytes"
        else return .joined (← replacements careful fuel line pieces)

def replacements (careful : Bool) : Nat → Nat → List Quotation.Piece → Parser (List Expr)
  | 0, _, _ => stuck
  | _ + 1, _, [] => return []
  | fuel + 1, line, .plain s :: rest => do
    let more ← replacements careful fuel line rest
    return if s.isEmpty then more else .literal (.text s) :: more
  | fuel + 1, line, .field source format :: rest => do
    let lexed := lex ('(' :: source ++ [')'])
    match lexed.fault with
    | some r => refuse (.badReplacement r.fault.text) r.line
    | none =>
      match (do
          let e ← starExpressions careful fuel
          if (← look).lexeme = .newline then return e else stuck : Parser Expr) lexed.lexemes with
      | .ok e _ =>
        let spec ← match format with
          | none => pure none
          | some pieces => do
            pure (some (Expr.joined (← replacements careful fuel line pieces)))
        let more ← replacements careful fuel line rest
        return .replacement e spec :: more
      | .stuck _ => refuse (.badReplacement "invalid syntax") line
      | .refused r => fun _ => .refused r
  | fuel + 1, line, .bytes _ :: rest => replacements careful fuel line rest

/-- What stands in parentheses: nothing, one expression, a tuple or a generator. -/
def group (careful : Bool) : Nat → Parser Expr
  | 0 => stuck
  | fuel + 1 => do
    if ← acceptSymbol ")" then return .display .tuple []
    else
      if careful then
        let l ← look
        if l.lexeme = .symbol "**" then
          match ← probe (do
              let _ ← take
              let _ ← expression careful fuel
              acceptSymbol ")") with
          | some (true, _) => refuse .doubleStarredGroup l.line
          | _ => stuck
        if l.lexeme = .symbol "*" then
          checkStarredGroup careful fuel
      let first ← starNamed careful fuel
      if ← acceptSymbol ")" then
        match first with
        | .starred _ => stuck
        | e => return e
      else if ← atWord "for" then
        match first with
        | .starred _ => stuck
        | _ =>
          clauses careful fuel
          expectSymbol ")"
          return .form "GeneratorExp"
      else
        expectSymbol ","
        let rest ← items careful fuel ")"
        expectSymbol ")"
        return .display .tuple (first :: rest)

/-- Careful: refuses a starred expression that stands in parentheses alone. -/
def checkStarredGroup (careful : Bool) : Nat → Parser Unit
  | 0 => stuck
  | fuel + 1 => do
    let l ← look
    match ← probe (do
        let _ ← starNamed careful fuel
        acceptSymbol ",") with
    | some (true, _) => return ()
    | _ =>
      match ← probe (do
          let _ ← take
          let _ ← expression careful fuel
          acceptSymbol ")") with
      | some (true, _) => refuse .starredGroup l.line
      | _ => stuck

def bracketed (careful : Bool) : Nat → String → Display → String → Parser Expr
  | 0, _, _, _ => stuck
  | fuel + 1, close, kind, comprehension => do
    if ← acceptSymbol close then return .display kind []
    else
      let first ← starNamed careful fuel
      if ← atWord "for" then
        clauses careful fuel
        expectSymbol close
        return .form comprehension
      else if ← acceptSymbol close then return .display kind [first]
      else
        expectSymbol ","
        let rest ← items careful fuel close
        expectSymbol close
        return .display kind (first :: rest)

/-- What stands in braces: a set or a dictionary. -/
def braced (careful : Bool) : Nat → Parser Expr
  | 0 => stuck
  | fuel + 1 => do
    if ← acceptSymbol "\x7d" then return .display .dict []
    else if ← acceptSymbol "**" then
      let _ ← operation careful fuel 4
      pairsTail careful fuel
    else
      let first ← starNamed careful fuel
      if ← acceptSymbol ":" then
        let _ ← expression careful fuel
        if ← atWord "for" then
          clauses careful fuel
          expectSymbol "\x7d"
          return .form "DictComp"
        else pairsTail careful fuel
      else if ← atWord "for" then
        clauses careful fuel
        expectSymbol "\x7d"
        return .form "SetComp"
      else if ← acceptSymbol "\x7d" then return .display .set [first]
      else
        expectSymbol ","
        let rest ← items careful fuel "\x7d"
        expectSymbol "\x7d"
        return .display .set (first :: rest)

def pairsTail (careful : Bool) : Nat → Parser Expr
  | 0 => stuck
  | fuel + 1 => do
    if ← acceptSymbol "\x7d" then return .display .dict []
    else
      expectSymbol ","
      if ← acceptSymbol "\x7d" then return .display .dict []
      else if ← acceptSymbol "**" then
        let _ ← operation careful fuel 4
        pairsTail careful fuel
      else
        let _ ← expression careful fuel
        expectSymbol ":"
        let _ ← expression careful fuel
        pairsTail careful fuel

/-- Expressions parted by commas up to a closing bracket, which is left in place. -/
def items (careful : Bool) : Nat → String → Parser (List Expr)
  | 0, _ => stuck
  | fuel + 1, close => do
    if ← atSymbol close then return []
    else
      let e ← starNamed careful fuel
      if ← acceptSymbol "," then return e :: (← items careful fuel close) else return [e]

/-- An expression that may be starred or named. -/
def starNamed (careful : Bool) : Nat → Parser Expr
  | 0 => stuck
  | fuel + 1 => do
    if ← acceptSymbol "*" then return .starred (← operation careful fuel 4)
    else named careful fuel

def named (careful : Bool) : Nat → Parser Expr
  | 0 => stuck
  | fuel + 1 => do
    let l ← look
    if ← nameBefore ":=" then
      let _ ← take
      let _ ← take
      let _ ← expression careful fuel
      return .form "NamedExpr"
    else
      let value ← expression careful fuel
      if ← atSymbol ":=" then stuck
      if careful then
        checkEquation l.line value (operation careful fuel 4)
      return value

/-- An argument given by position, which may be given a name for use elsewhere. -/
def positional (careful : Bool) : Nat → Parser Expr
  | 0 => stuck
  | fuel + 1 => do
    let l ← look
    if ← nameBefore ":=" then named careful fuel
    else
      let value ← expression careful fuel
      if ← atSymbol ":=" then stuck
      if careful then
        if ← atSymbol "=" then
          match value with
          | .literal (.bool _) | .literal .none => refuse (.badTarget (targetName value)) l.line
          | _ => refuse .assignmentInCall l.line
      return value

def clauses (careful : Bool) : Nat → Parser Unit
  | 0 => stuck
  | fuel + 1 => do
    if ← acceptWord "for" then
      targets careful fuel
      expectWord "in"
      let _ ← operation careful fuel 0
      clauses careful fuel
    else if ← acceptWord "if" then
      let _ ← operation careful fuel 0
      clauses careful fuel
    else return ()

def targets (careful : Bool) : Nat → Parser Unit
  | 0 => stuck
  | fuel + 1 => do
    let _ ← acceptSymbol "*"
    let e ← operation careful fuel 4
    if (invalidTarget? e).isSome then stuck
    if ← acceptSymbol "," then
      if ← atWord "in" then return () else targets careful fuel
    else return ()

/-- The arguments of a call up to the closing parenthesis, which is left in place. Positional ones
come before named ones. -/
def arguments (careful : Bool) :
    Nat → Bool → Parser (List Expr × List (Option String × Expr))
  | 0, _ => stuck
  | fuel + 1, afterNamed => do
    let l ← look
    if l.lexeme = .symbol ")" then return ([], [])
    else if l.lexeme = .symbol "**" then
      let _ ← take
      let e ← expression careful fuel
      let (args, more) ← argumentsTail careful fuel true
      return (args, (none, e) :: more)
    else if l.lexeme = .symbol "*" then
      let _ ← take
      let e ← expression careful fuel
      let (args, more) ← argumentsTail careful fuel afterNamed
      return (.starred e :: args, more)
    else
      if ← nameBefore "=" then
        let s ← parameterName
        let _ ← take
        let e ← expression careful fuel
        let (args, more) ← argumentsTail careful fuel true
        return (args, (some s, e) :: more)
      else
        let e ← positional careful fuel
        if ← atWord "for" then
          clauses careful fuel
          return ([.form "GeneratorExp"], [])
        else if afterNamed then
          if careful then refuse .positionalAfterKeyword l.line else stuck
        else
          let (args, more) ← argumentsTail careful fuel afterNamed
          return (e :: args, more)

def argumentsTail (careful : Bool) :
    Nat → Bool → Parser (List Expr × List (Option String × Expr))
  | 0, _ => stuck
  | fuel + 1, afterNamed => do
    if ← acceptSymbol "," then arguments careful fuel afterNamed else return ([], [])

def slices (careful : Bool) : Nat → Parser Expr
  | 0 => stuck
  | fuel + 1 => do
    let first ← slice careful fuel
    if ← acceptSymbol "," then
      let _ ← slicesTail careful fuel
      return .display .tuple [first]
    else
      match first with
      | .starred _ => return .display .tuple [first]
      | e => return e

def slicesTail (careful : Bool) : Nat → Parser Unit
  | 0 => stuck
  | fuel + 1 => do
    if ← atSymbol "]" then return ()
    else
      let _ ← slice careful fuel
      if ← acceptSymbol "," then slicesTail careful fuel else return ()

def slice (careful : Bool) : Nat → Parser Expr
  | 0 => stuck
  | fuel + 1 => do
    let low ← sliceBound careful fuel
    if ← acceptSymbol ":" then
      let high ← sliceBound careful fuel
      let step ← (do
        if ← acceptSymbol ":" then sliceBound careful fuel else return none)
      return .slice low high step
    else
      match low with
      | some e => return e
      | none => stuck

/-- A bound of a slice, which may be missing. -/
def sliceBound (careful : Bool) : Nat → Parser (Option Expr)
  | 0 => stuck
  | fuel + 1 => do
    let l ← look
    if l.lexeme = .symbol ":" || l.lexeme = .symbol "]" || l.lexeme = .symbol "," then return none
    else return some (← starNamed careful fuel)

/-- Expressions parted by commas outside of brackets: one, or a tuple. -/
def starExpressions (careful : Bool) : Nat → Parser Expr
  | 0 => stuck
  | fuel + 1 => do
    let first ← starExpression careful fuel
    if ← acceptSymbol "," then
      return .display .tuple (first :: (← starTail careful fuel))
    else return first

def starTail (careful : Bool) : Nat → Parser (List Expr)
  | 0 => stuck
  | fuel + 1 => do
    if endsList (← look).lexeme then return []
    else
      let e ← starExpression careful fuel
      if ← acceptSymbol "," then return e :: (← starTail careful fuel) else return [e]

def starExpression (careful : Bool) : Nat → Parser Expr
  | 0 => stuck
  | fuel + 1 => do
    if ← acceptSymbol "*" then return .starred (← operation careful fuel 4)
    else expression careful fuel

end

end Formulary.Expr.Grammar

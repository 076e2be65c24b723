import Formulary.Expr.Fault
import Formulary.Text.Identifier

/-!
Lexemes of the expression language: names, numerals, quoted texts, symbols and the ends of lines.
Splitting goes from left to right and stops at the first fault.
-/

namespace Formulary.Expr

inductive Lexeme where
  | name (cs : List Char)
  | numeral (cs : List Char)
  | text (cs : List Char)
  | symbol (s : String)
  | newline
  | indent
  | finish
deriving DecidableEq, Repr

/-- A lexeme with its line and the number of brackets open behind it. -/
structure Located where
  lexeme : Lexeme
  line : Nat
  depth : Nat
deriving DecidableEq, Repr

/-- The lexemes of a text, up to the first fault if there is one. -/
structure Lexed where
  lexemes : List Located
  fault : Option Report
deriving DecidableEq, Repr

def maxDepth : Nat := 200

/-- The character may belong to a name as far as ASCII can tell. -/
def mayContinueName (c : Char) : Bool := c.isAlphanum || c == '_' || c.toNat ≥ 128

def mayStartName (c : Char) : Bool := c.isAlpha || c == '_' || c.toNat ≥ 128

/-- Takes digits of a class, with single underscores that have a digit behind them. -/
def digitGroups? (p : Char → Bool) : List Char → Option (List Char × List Char)
  | [] => some ([], [])
  | ['_'] => none
  | '_' :: d :: rest =>
    if p d then (digitGroups? p (d :: rest)).map fun (ds, r) => ('_' :: ds, r) else none
  | c :: rest =>
    if p c then (digitGroups? p rest).map fun (ds, r) => (c :: ds, r) else some ([], c :: rest)

def isHexDigit (c : Char) : Bool := c.isDigit || ('a' ≤ c && c ≤ 'f') || ('A' ≤ c && c ≤ 'F')

def isOctalDigit (c : Char) : Bool := '0' ≤ c && c ≤ '7'

def isBinaryDigit (c : Char) : Bool := c == '0' || c == '1'

/-- The words that may follow a numeral without a space. -/
def wordsAfterNumeral : List (List Char) :=
  ["and", "else", "for", "if", "in", "is", "or", "not"].map String.toList

/-- A numeral must not run into a name. -/
def endsNumeral (rest : List Char) : Bool :=
  match rest with
  | [] => true
  | c :: _ => wordsAfterNumeral.any (·.isPrefixOf rest) || !mayContinueName c

abbrev Taken := Except Fault (List Char × List Char)

/-- The end of a numeral: nothing of a name may follow. -/
def closeNumeral (kind : String) (taken rest : List Char) : Taken :=
  if endsNumeral rest then .ok (taken, rest) else .error (.badNumber kind)

/-- An exponent or imaginary mark behind the digits of a numeral. -/
def takeImaginary (taken rest : List Char) : Taken :=
  match rest with
  | 'j' :: more => closeNumeral "imaginary" (taken ++ ['j']) more
  | 'J' :: more => closeNumeral "imaginary" (taken ++ ['J']) more
  | _ => closeNumeral "decimal" taken rest

def takeExponentDigits (taken rest : List Char) : Taken :=
  match digitGroups? Char.isDigit rest with
  | some (ds, more) => takeImaginary (taken ++ ds) more
  | none => .error (.badNumber "decimal")

def startsWithDigit (cs : List Char) : Bool := cs.head?.any Char.isDigit

/-- What may follow the digits and fraction of a numeral. -/
def takeExponent (taken rest : List Char) : Taken :=
  match rest with
  | e :: more =>
    if e = 'e' ∨ e = 'E' then
      match more with
      | s :: digits =>
        if s = '+' ∨ s = '-' then
          if startsWithDigit digits then takeExponentDigits (taken ++ [e, s]) digits
          else .error (.badNumber "decimal")
        else if s.isDigit then takeExponentDigits (taken ++ [e]) more
        else closeNumeral "decimal" taken rest
      | [] => closeNumeral "decimal" taken rest
    else takeImaginary taken rest
  | [] => .ok (taken, [])

def takeFraction (taken rest : List Char) : Taken :=
  if startsWithDigit rest then
    match digitGroups? Char.isDigit rest with
    | some (ds, more) => takeExponent (taken ++ ds) more
    | none => .error (.badNumber "decimal")
  else takeExponent taken rest

/-- A numeral of base ten. An integer must not start with needless zeros. -/
def takeDecimal (cs : List Char) : Taken :=
  match digitGroups? Char.isDigit cs with
  | none => .error (.badNumber "decimal")
  | some (ds, rest) =>
    match rest with
    | '.' :: more => takeFraction (ds ++ ['.']) more
    | c :: _ =>
      let fractional := c == 'e' || c == 'E' || c == 'j' || c == 'J'
      if ds.head? = some '0' ∧ ds.any (fun d => d != '0' && d != '_') ∧ !fractional then
        .error .leadingZeros
      else takeExponent ds rest
    | [] =>
      if ds.head? = some '0' ∧ ds.any (fun d => d != '0' && d != '_') then .error .leadingZeros
      else .ok (ds, [])

def takeBased (kind : String) (p : Char → Bool) (mark rest : List Char) : Taken :=
  let body := match rest with
    | '_' :: more => more
    | _ => rest
  let wrong := fun (c : Option Char) => match c with
    | some d => if d.isDigit ∧ kind ≠ "hexadecimal" then Fault.badDigit d kind else .badNumber kind
    | none => .badNumber kind
  if body.head?.any p then
    match digitGroups? p body with
    | none =>
      -- an underscore with no digit of the base behind it
      let tail := body.dropWhile fun c => p c || c == '_'
      .error (wrong tail.head?)
    | some (ds, more) =>
      match more.head? with
      | some d =>
        if d.isDigit then .error (wrong (some d))
        else closeNumeral kind (mark ++ ds) more
      | none => .ok (mark ++ ds, [])
  else .error (wrong body.head?)

def takeNumeral (cs : List Char) : Taken :=
  match cs with
  | '0' :: b :: rest =>
    if b = 'x' ∨ b = 'X' then takeBased "hexadecimal" isHexDigit ['0', 'x'] rest
    else if b = 'o' ∨ b = 'O' then takeBased "octal" isOctalDigit ['0', 'o'] rest
    else if b = 'b' ∨ b = 'B' then takeBased "binary" isBinaryDigit ['0', 'b'] rest
    else takeDecimal cs
  | _ => takeDecimal cs

def textMarks : List (List Char) :=
  ["r", "u", "b", "f", "br", "rb", "fr", "rf"].map String.toList

def isQuote (c : Char) : Bool := c == '\'' || c == '"'

/-- The letters before a quoted text, if one starts here. -/
def textMark? (cs : List Char) : Option (List Char) :=
  match cs with
  | q :: _ =>
    if isQuote q then some []
    else
      textMarks.findSome? fun mark =>
        let head := cs.take mark.length
        if head.map Char.toLower = mark ∧ (cs.drop mark.length).head?.any isQuote then some head
        else none
  | [] => none

/-- Takes a text in single quotes up to its closing quote; counts the line ends taken. -/
def takeShortText (quote : Char) : List Char → Nat → Except Nat (List Char × List Char × Nat)
  | [], lines => .error lines
  | '\\' :: c :: rest, lines => do
    let (cs, r, n) ← takeShortText quote rest (if c = '\n' then lines + 1 else lines)
    return ('\\' :: c :: cs, r, n)
  | c :: rest, lines =>
    if c = quote then .ok ([c], rest, lines)
    else if c = '\n' then .error lines
    else do
      let (cs, r, n) ← takeShortText quote rest lines
      return (c :: cs, r, n)

def takeLongText (quote : Char) : List Char → Nat → Except Nat (List Char × List Char × Nat)
  | [], lines => .error lines
  | '\\' :: c :: rest, lines => do
    let (cs, r, n) ← takeLongText quote rest (if c = '\n' then lines + 1 else lines)
    return ('\\' :: c :: cs, r, n)
  | c :: rest, lines =>
    if c = quote ∧ rest.take 2 = [quote, quote] then .ok ([c, c, c], rest.drop 2, lines)
    else do
      let (cs, r, n) ← takeLongText quote rest (if c = '\n' then lines + 1 else lines)
      return (c :: cs, r, n)

/-- Symbols of three, two and one characters; a longer one goes before a shorter one. -/
def longSymbols : List String := ["**=", "//=", ">>=", "<<=", "..."]

def pairSymbols : List String :=
  ["**", "//", ">>", "<<", "<=", ">=", "==", "!=", "<>", "->", "+=", "-=", "*=", "/=", "%=", "&=",
    "|=", "^=", "@=", ":="]

/-- The symbol at the front of a text: the longest one, else the single character. -/
def takeSymbol (c : Char) (rest : List Char) : String × List Char :=
  let three := String.ofList (c :: rest.take 2)
  let two := String.ofList (c :: rest.take 1)
  if longSymbols.contains three then (three, rest.drop 2)
  else if pairSymbols.contains two then (two, rest.drop 1)
  else (String.singleton c, rest)

/-- An opening bracket that is still open. -/
structure Opened where
  bracket : Char
  line : Nat
deriving DecidableEq, Repr

/-- Where splitting has got to. -/
structure ScanState where
  line : Nat := 1
  opened : List Opened := []
  indents : List Nat := []
deriving DecidableEq, Repr

def ScanState.depth (st : ScanState) : Nat := st.opened.length

def closerOf : Char → Char
  | '(' => ')'
  | '[' => ']'
  | _ => '}'

/-- What a bracket does to the open brackets. -/
def ScanState.bracket (st : ScanState) (c : Char) : Except Fault ScanState :=
  if c = '(' ∨ c = '[' ∨ c = '{' then
    if maxDepth ≤ st.depth then .error .nestedTooDeep
    else .ok { st with opened := ⟨c, st.line⟩ :: st.opened }
  else if c = ')' ∨ c = ']' ∨ c = '}' then
    match st.opened with
    | [] => .error (.unmatched c)
    | o :: rest =>
      if closerOf o.bracket = c then .ok { st with opened := rest }
      else .error (.mismatched c o.bracket (if o.line = st.line then none else some o.line))
  else .ok st

/-- The column that a line starts at: tabs go to the next multiple of eight, a page end to zero. -/
def indentation (col : Nat) : List Char → Nat × List Char
  | ' ' :: rest => indentation (col + 1) rest
  | '\t' :: rest => indentation ((col / 8 + 1) * 8) rest
  | c :: rest => if c = Char.ofNat 12 then indentation 0 rest else (col, c :: rest)
  | [] => (col, [])

/-- Nothing follows on this line but a comment. -/
def isBlankLine (cs : List Char) : Bool :=
  match cs with
  | '\n' :: _ => true
  | '#' :: _ => true
  | _ => false

def Lexed.cons (l : Located) (r : Lexed) : Lexed := { r with lexemes := l :: r.lexemes }

def stopAt (f : Fault) (line : Nat) : Lexed := ⟨[], some ⟨f, line⟩⟩

/-- What is reported when the text ends while brackets are open or a line is continued. -/
def ScanState.endFault (st : ScanState) : Lexed :=
  match st.opened with
  | o :: _ => stopAt (.neverClosed o.bracket) o.line
  | [] => stopAt .continuedAtEnd st.line

mutual

/-- Splits from the start of a line; `fuel` bounds the number of steps. -/
def scanLine : Nat → ScanState → List Char → Lexed
  | 0, _, _ => ⟨[], none⟩
  | fuel + 1, st, cs =>
    let (col, rest) := indentation 0 cs
    if isBlankLine rest ∨ st.opened ≠ [] then scan fuel st (isBlankLine rest) rest
    else
      let current := st.indents.headD 0
      if rest.isEmpty ∨ col = current then scan fuel st false rest
      else if current < col then
        (scan fuel { st with indents := col :: st.indents } false rest).cons
          ⟨.indent, st.line, st.depth⟩
      else
        let outer := st.indents.dropWhile (col < ·)
        if outer.headD 0 = col then scan fuel { st with indents := outer } false rest
        else stopAt .badDedent st.line

/-- Splits inside a line; `blank` says that the line has no lexeme of its own. -/
def scan : Nat → ScanState → Bool → List Char → Lexed
  | 0, _, _, _ => ⟨[], none⟩
  | _ + 1, st, _, [] =>
    if st.opened = [] then ⟨[⟨.finish, st.line, 0⟩], none⟩ else st.endFault
  | fuel + 1, st, blank, c :: cs =>
    if c = ' ' ∨ c = '\t' ∨ c = Char.ofNat 12 then scan fuel st blank cs
    else if c = '#' then scan fuel st blank (cs.dropWhile (· ≠ '\n'))
    else if c = '\n' then
      let next := { st with line := st.line + 1 }
      if blank ∨ st.opened ≠ [] then scanLine fuel next cs
      else (scanLine fuel next cs).cons ⟨.newline, st.line, 0⟩
    else if c = '\\' then
      match cs with
      | '\n' :: rest =>
        if rest.isEmpty then st.endFault else scan fuel { st with line := st.line + 1 } blank rest
      | _ => stopAt .afterContinuation st.line
    else
      match textMark? (c :: cs) with
      | some mark =>
        let body := (c :: cs).drop mark.length
        let quote := body.headD '"'
        let long := body.take 3 = [quote, quote, quote]
        let opening := if long then [quote, quote, quote] else [quote]
        let inner := body.drop opening.length
        match (if long then takeLongText quote inner 0 else takeShortText quote inner 0) with
        | .error lines =>
          -- the line feed that ends the text starts no further line
          stopAt (if long then .openLongText (st.line + lines - 1) else .openText (st.line + lines))
            st.line
        | .ok (taken, rest, lines) =>
          (scan fuel { st with line := st.line + lines } false rest).cons
            ⟨.text (mark ++ opening ++ taken), st.line, st.depth⟩
      | none =>
        if mayStartName c then
          let word := c :: cs.takeWhile mayContinueName
          let good := Text.identifierLength word
          match word.drop good with
          | bad :: _ => stopAt (.badCharacter bad) st.line
          | [] =>
            (scan fuel st false (cs.dropWhile mayContinueName)).cons ⟨.name word, st.line, st.depth⟩
        else if c.isDigit ∨ (c = '.' ∧ startsWithDigit cs) then
          match (if c = '.' then takeFraction ['.'] cs else takeNumeral (c :: cs)) with
          | .error f => stopAt f st.line
          | .ok (taken, rest) => (scan fuel st false rest).cons ⟨.numeral taken, st.line, st.depth⟩
        else
          match st.bracket c with
          | .error f => stopAt f st.line
          | .ok next =>
            let (sym, rest) := takeSymbol c cs
            if Text.isPrintable c then
              (scan fuel next false rest).cons ⟨.symbol sym, st.line, next.depth⟩
            else stopAt (.badCharacter c) st.line

end

/-- Every line end becomes a line feed, and the last line has one. -/
def withLineEnds : List Char → List Char
  | [] => ['\n']
  | '\r' :: '\n' :: rest => '\n' :: (if rest.isEmpty then [] else withLineEnds rest)
  | c :: rest =>
    let d := if c = '\r' then '\n' else c
    if d = '\n' ∧ rest.isEmpty then [d] else d :: withLineEnds rest

/-- The lexemes of a text. -/
def lex (cs : List Char) : Lexed :=
  if cs.isEmpty then ⟨[⟨.finish, 1, 0⟩], none⟩
  else
    let text := withLineEnds cs
    scanLine (2 * text.length + 2) {} text

end Formulary.Expr

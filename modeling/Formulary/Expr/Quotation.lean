import Formulary.Decimal.Numeral
import Formulary.Expr.Lexeme

/-!
The content of quoted texts. Escapes stand for characters, letters before the quotes change how the
content is read, and in a text marked with `f` braces hold expressions whose values are put in.
-/

namespace Formulary.Expr.Quotation

/-- A part of the content: characters, or an expression with an optional format. -/
inductive Piece where
  | plain (s : String)
  | bytes (s : String)
  | field (source : List Char) (format : Option (List Piece))

/-- A quoted text taken apart: its marks and what stands between its quotes. -/
structure Parts where
  raw : Bool
  bytes : Bool
  fields : Bool
  content : List Char

/-- Takes off the marks and the quotes. -/
def parts (cs : List Char) : Parts :=
  let mark := cs.takeWhile (!isQuote ·)
  let body := cs.drop mark.length
  let quote := body.headD '"'
  let width := if body.take 3 = [quote, quote, quote] ∧ 6 ≤ body.length then 3 else 1
  let has := fun (a b : Char) => mark.contains a || mark.contains b
  { raw := has 'r' 'R'
    bytes := has 'b' 'B'
    fields := has 'f' 'F'
    content := (body.drop width).take (body.length - 2 * width) }

def letterEscape? : Char → Option Char
  | '\\' => some '\\'
  | '\'' => some '\''
  | '"' => some '"'
  | 'a' => some (Char.ofNat 7)
  | 'b' => some (Char.ofNat 8)
  | 'f' => some (Char.ofNat 12)
  | 'n' => some '\n'
  | 'r' => some '\r'
  | 't' => some '\t'
  | 'v' => some (Char.ofNat 11)
  | _ => none

def codePointWidth? : Char → Option Nat
  | 'x' => some 2
  | 'u' => some 4
  | 'U' => some 8
  | _ => none

/-- Reads escapes; `pos` is the place in the content, and `fuel` bounds the number of steps. -/
def unescape : Nat → Nat → List Char → Except Fault (List Char)
  | 0, _, _ => .ok []
  | _ + 1, _, [] => .ok []
  | fuel + 1, pos, '\\' :: c :: rest => do
    if c = '\n' then unescape fuel (pos + 2) rest
    else
      match letterEscape? c with
      | some d => return d :: (← unescape fuel (pos + 2) rest)
      | none =>
        match codePointWidth? c with
        | some width =>
          let ds := (rest.take width).takeWhile isHexDigit
          let last := pos + 1 + ds.length
          if ds.length < width then
            let digits := String.ofList (List.replicate width 'X')
            .error (.badEscape "unicodeescape" pos last s!"truncated \\{c}{digits} escape")
          else
            let n := Decimal.ofDigits 16 ds
            if 0x110000 ≤ n then
              .error (.badEscape "unicodeescape" pos last "illegal Unicode character")
            else
              return Text.unescapedChar n :: (← unescape fuel (pos + 2 + width) (rest.drop width))
        | none =>
          if isOctalDigit c then
            let ds := ((c :: rest).take 3).takeWhile isOctalDigit
            let more := (c :: rest).drop ds.length
            let d := Text.unescapedChar (Decimal.ofDigits 8 ds)
            return d :: (← unescape fuel (pos + 1 + ds.length) more)
          else return '\\' :: c :: (← unescape fuel (pos + 2) rest)
  | fuel + 1, pos, c :: rest => do return c :: (← unescape fuel (pos + 1) rest)

def content (p : Parts) (cs : List Char) : Except Fault String :=
  if p.raw then .ok (String.ofList cs)
  else (unescape (cs.length + 1) 0 cs).map String.ofList

/-- The expression of a field: up to a colon, an exclamation mark or a closing brace that is not
inside brackets or quotes. -/
def fieldSource : Nat → Nat → Option Char → List Char → List Char × List Char
  | 0, _, _, cs => ([], cs)
  | _ + 1, _, _, [] => ([], [])
  | fuel + 1, depth, quote, c :: rest =>
    let step := fun (depth : Nat) (quote : Option Char) =>
      let (s, r) := fieldSource fuel depth quote rest
      (c :: s, r)
    match quote with
    | some q => step depth (if c = q then none else some q)
    | none =>
      if isQuote c then step depth (some c)
      else if c = '(' ∨ c = '[' ∨ c = '\x7b' then step (depth + 1) none
      else if depth = 0 then
        if c = '\x7d' ∨ c = ':' then ([], c :: rest)
        else if c = '!' ∧ rest.head? ≠ some '=' then ([], c :: rest)
        else step 0 none
      else if c = ')' ∨ c = ']' ∨ c = '\x7d' then step (depth - 1) none
      else step depth none

/-- Characters up to the next single brace; doubled braces stand for one, except in a format. -/
def plainRun (inFormat : Bool) : List Char → List Char × List Char
  | [] => ([], [])
  | '\x7b' :: '\x7b' :: rest =>
    if inFormat then ([], '\x7b' :: '\x7b' :: rest)
    else let (s, r) := plainRun inFormat rest; ('\x7b' :: s, r)
  | '\x7d' :: '\x7d' :: rest =>
    if inFormat then ([], '\x7d' :: '\x7d' :: rest)
    else let (s, r) := plainRun inFormat rest; ('\x7d' :: s, r)
  | c :: rest =>
    if c = '\x7b' ∨ c = '\x7d' then ([], c :: rest)
    else let (s, r) := plainRun inFormat rest; (c :: s, r)

/-- The pieces of a text with fields; a format ends before its closing brace. -/
def fields (p : Parts) (inFormat : Bool) : Nat → List Char → Except Fault (List Piece × List Char)
  | 0, cs => .ok ([], cs)
  | fuel + 1, cs => do
    let (run, rest) := plainRun inFormat cs
    let head := Piece.plain (← content p run)
    match rest with
    | [] => return ([head], [])
    | '\x7d' :: more =>
      if inFormat then return ([head], '\x7d' :: more)
      else .error (.badReplacement "single '\x7d' is not allowed")
    | _ :: more =>
      let (source, rest) := fieldSource (more.length + 1) 0 none more
      if source.all (fun c => c == ' ' || c == '\t' || c == '\n') then
        .error (.badReplacement "empty expression not allowed")
      else
        let rest := match rest with
          | '!' :: _ :: r => r
          | r => r
        let (format, rest) ← (match rest with
          | ':' :: r => do
            let (pieces, r') ← fields p true fuel r
            return (some pieces, r')
          | r => return (none, r) : Except Fault (Option (List Piece) × List Char))
        match rest with
        | '\x7d' :: r => do
          let (pieces, r') ← fields p inFormat fuel r
          return (head :: .field source format :: pieces, r')
        | _ => .error (.badReplacement "expecting '\x7d'")

/-- The pieces of the texts that stand side by side. -/
def read : List (List Char) → Except Fault (List Piece)
  | [] => .ok []
  | cs :: rest => do
    let p := parts cs
    let here ← (if p.fields then (fields p false (p.content.length + 1) p.content).map (·.1)
      else if p.bytes then return [.bytes (← content p p.content)]
      else return [.plain (← content p p.content)] : Except Fault (List Piece))
    return here ++ (← read rest)

/-- The whole content, if no field is in it. -/
def plainText? : List Piece → Option String
  | [] => some ""
  | .plain s :: rest => (plainText? rest).map (s ++ ·)
  | _ :: _ => none

def isBytes (pieces : List Piece) : Bool :=
  pieces.any fun
    | .bytes _ => true
    | _ => false

end Formulary.Expr.Quotation

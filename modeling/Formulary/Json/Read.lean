import Formulary.Decimal.Numeral
import Formulary.Json.Basic

/-!
Reading JSON text. Beyond the standard, `NaN` and the two infinities are numbers. A text is read as
a whole or not at all, and it is given up where it nests too deep, whatever follows.
-/

namespace Formulary.Json

/-- Why a text is not read. -/
inductive ReadError where
  | malformed
  /-- An array or an object opens where no room is left. -/
  | tooDeep (what : String)
deriving DecidableEq, Repr

/-- The text of a fault that is not one of form. -/
def ReadError.message : ReadError → String
  | malformed => "invalid JSON"
  | tooDeep what =>
    s!"maximum recursion depth exceeded while decoding a JSON {what} from a unicode string"

abbrev Reader (α : Type) := List Char → Option (α × List Char)

def isSpace (c : Char) : Bool := c == ' ' || c == '\t' || c == '\n' || c == '\r'

def skipSpace (cs : List Char) : List Char := cs.dropWhile isSpace

def word? (w : List Char) (cs : List Char) : Option (List Char) :=
  if w.isPrefixOf cs then some (cs.drop w.length) else none

/-- The digits in front of the point; a zero stands alone. -/
def wholeDigits (cs : List Char) : List Char :=
  match cs with
  | '0' :: _ => ['0']
  | _ => cs.takeWhile Char.isDigit

def exponent (cs : List Char) : Option Int × List Char :=
  match cs with
  | c :: more =>
    let (negative, rest) := Decimal.splitSign more
    let digits := rest.takeWhile Char.isDigit
    let n : Int := Decimal.ofDigits 10 digits
    if (c = 'e' ∨ c = 'E') ∧ !digits.isEmpty then
      (some (if negative then -n else n), rest.drop digits.length)
    else (none, cs)
  | [] => (none, cs)

/-- The number of a numeral: an integer if there is neither a fraction nor an exponent. -/
def number? (negative : Bool) (whole fraction : List Char) (exponent : Option Int) : Option Json :=
  match exponent with
  | some e => some (.float (Decimal.Parts.toFloat negative ⟨whole, fraction, e⟩))
  | none =>
    if fraction.isEmpty then
      if Decimal.maxIntegerDigits < whole.length then none
      else
        let n : Int := Decimal.ofDigits 10 whole
        some (.int (if negative then -n else n))
    else some (.float (Decimal.Parts.toFloat negative ⟨whole, fraction, 0⟩))

/-- Takes a numeral behind its sign, with digits behind its point and its exponent if it has them. -/
def readUnsigned (negative : Bool) : Reader Json := fun cs =>
  let whole := wholeDigits cs
  if whole.isEmpty then none
  else
    let rest := cs.drop whole.length
    let fraction := match rest with
      | '.' :: more => more.takeWhile Char.isDigit
      | _ => []
    let rest := if fraction.isEmpty then rest else rest.drop (1 + fraction.length)
    let (e, rest) := exponent rest
    (number? negative whole fraction e).map (·, rest)

def readNumber : Reader Json
  | '-' :: rest => readUnsigned true rest
  | cs => readUnsigned false cs

/-- The number of four hexadecimal digits. -/
def hexUnit? : Reader Nat := fun cs =>
  let ds := cs.take 4
  if ds.length = 4 ∧ ds.all (fun c => c.isDigit || "abcdefABCDEF".toList.contains c) then
    some (Decimal.ofDigits 16 ds, cs.drop 4)
  else none

/-- Takes the digits of an escaped code unit, and the second unit of a pair of surrogates. -/
def readUnits : Reader Char := fun cs => do
  let (unit, rest) ← hexUnit? cs
  let second := match rest with
    | '\\' :: 'u' :: more => hexUnit? more
    | _ => none
  match second with
  | some (low, rest') =>
    if 0xD800 ≤ unit ∧ unit < 0xDC00 ∧ 0xDC00 ≤ low ∧ low < 0xE000 then
      return (Char.ofNat (0x10000 + (unit - 0xD800) * 0x400 + (low - 0xDC00)), rest')
    else return (Text.unescapedChar unit, rest)
  | none => return (Text.unescapedChar unit, rest)

def simpleEscape? : Char → Option Char
  | '"' => some '"'
  | '\\' => some '\\'
  | '/' => some '/'
  | 'b' => some (Char.ofNat 8)
  | 'f' => some (Char.ofNat 12)
  | 'n' => some '\n'
  | 'r' => some '\r'
  | 't' => some '\t'
  | _ => none

/-- Takes the rest of a text behind its opening quote; `fuel` bounds the number of characters. -/
def readText : Nat → List Char → Reader String
  | 0, _, _ => none
  | _ + 1, _, [] => none
  | fuel + 1, acc, c :: cs =>
    if c = '"' then some (String.ofList acc.reverse, cs)
    else if c = '\\' then
      match cs with
      | 'u' :: rest =>
        match readUnits rest with
        | some (d, rest') => readText fuel (d :: acc) rest'
        | none => none
      | e :: rest =>
        match simpleEscape? e with
        | some d => readText fuel (d :: acc) rest
        | none => none
      | [] => none
    else if c.toNat < 32 then none
    else readText fuel (c :: acc) cs

/-- Takes a value of one word: a constant or a number. -/
def readWord : Reader Json := fun cs =>
  match word? "null".toList cs, word? "true".toList cs, word? "false".toList cs with
  | some r, _, _ => some (.null, r)
  | _, some r, _ => some (.bool true, r)
  | _, _, some r => some (.bool false, r)
  | _, _, _ =>
    match word? "NaN".toList cs, word? "Infinity".toList cs, word? "-Infinity".toList cs with
    | some r, _, _ => some (.float Binary.nan, r)
    | _, some r, _ => some (.float (Binary.infinity false), r)
    | _, _, some r => some (.float (Binary.infinity true), r)
    | _, _, _ => readNumber cs

mutual

/-- Takes a value that nests at most as deep as there is room; `fuel` bounds the number of steps. -/
def readValue : Nat → Nat → List Char → Except ReadError (Json × List Char)
  | 0, _, _ => .error .malformed
  | fuel + 1, room, cs =>
    match skipSpace cs with
    | '"' :: rest =>
      match readText (rest.length + 1) [] rest with
      | some (s, r) => .ok (.str s, r)
      | none => .error .malformed
    | '[' :: rest =>
      match room with
      | 0 => .error (.tooDeep "array")
      | room + 1 =>
        match skipSpace rest with
        | ']' :: r => .ok (.arr [], r)
        | r => readItems fuel room [] r
    | '{' :: rest =>
      match room with
      | 0 => .error (.tooDeep "object")
      | room + 1 =>
        match skipSpace rest with
        | '}' :: r => .ok (.obj [], r)
        | r => readFields fuel room [] r
    | rest =>
      match readWord rest with
      | some (v, r) => .ok (v, r)
      | none => .error .malformed

def readItems : Nat → Nat → List Json → List Char → Except ReadError (Json × List Char)
  | 0, _, _, _ => .error .malformed
  | fuel + 1, room, acc, cs => do
    let (v, rest) ← readValue fuel room cs
    match skipSpace rest with
    | ',' :: r => readItems fuel room (v :: acc) r
    | ']' :: r => .ok (.arr (v :: acc).reverse, r)
    | _ => .error .malformed

def readFields :
    Nat → Nat → List (String × Json) → List Char → Except ReadError (Json × List Char)
  | 0, _, _, _ => .error .malformed
  | fuel + 1, room, acc, cs =>
    match skipSpace cs with
    | '"' :: rest =>
      match readText (rest.length + 1) [] rest with
      | none => .error .malformed
      | some (name, r) =>
        match skipSpace r with
        | ':' :: r => do
          let (v, r) ← readValue fuel room r
          match skipSpace r with
          | ',' :: r => readFields fuel room (setField acc name v) r
          | '}' :: r => .ok (.obj (setField acc name v), r)
          | _ => .error .malformed
        | _ => .error .malformed
    | _ => .error .malformed

end

/-- The value that a whole text writes. -/
def read (s : String) : Except ReadError Json := do
  let cs := s.toList
  let (v, rest) ← readValue (2 * cs.length + 2) maxNesting cs
  if (skipSpace rest).isEmpty then .ok v else .error .malformed

def read? (s : String) : Option Json := (read s).toOption

end Formulary.Json

import Formulary.Decimal.Rounded
import Formulary.Value.Operand
import Formulary.Value.Written

/-!
Fields: values laid out by a specification such as `*>+10.2f`, which names in this order a fill
character and an alignment, how signs are shown, a width, a separator of groups of digits, a
precision, and a code for the form of the value. Every part may be missing.
-/

namespace Formulary

/-- Where a value stands in a width that is larger; `inside` is behind the sign. -/
inductive Alignment where
  | left | right | center | inside
deriving DecidableEq, Repr

def Alignment.ofChar? : Char → Option Alignment
  | '<' => some .left
  | '>' => some .right
  | '^' => some .center
  | '=' => some .inside
  | _ => none

structure FieldSpec where
  fill : Char := ' '
  alignment : Alignment
  sign : Option Char := none
  /-- A zero has no sign. -/
  plainZero : Bool := false
  /-- The alternate form: a mark of the base, or a point behind every real. -/
  alternate : Bool := false
  width : Nat := 0
  separator : Option Char := none
  precision : Option Nat := none
  code : Option Char := none

namespace FieldSpec

def takeIf (p : Char → Bool) : List Char → Option Char × List Char
  | [] => (none, [])
  | c :: rest => if p c then (some c, rest) else (none, c :: rest)

def takeNumber (cs : List Char) : Except LayoutError (Option Nat × List Char) :=
  let ds := cs.takeWhile fun c => (Text.digitValue? c).isSome
  let n := ds.foldl (fun n c => 10 * n + (Text.digitValue? c).getD 0) 0
  if ds.isEmpty then .ok (none, cs)
  else if Nat.pow 2 63 ≤ n then .error .numberTooLong
  else .ok (some n, cs.drop ds.length)

/-- Takes a fill character and an alignment, as far as they are there. -/
def takeAlignment : List Char → Option Char × Option Alignment × List Char
  | c :: d :: rest =>
    match Alignment.ofChar? d, Alignment.ofChar? c with
    | some a, _ => (some c, some a, rest)
    | none, some a => (none, some a, d :: rest)
    | none, none => (none, none, c :: d :: rest)
  | [c] =>
    match Alignment.ofChar? c with
    | some a => (none, some a, [])
    | none => (none, none, [c])
  | [] => (none, none, [])

def takeSeparator (cs : List Char) : Except LayoutError (Option Char × List Char) :=
  let (comma, cs) := takeIf (· = ',') cs
  let (line, cs) := takeIf (· = '_') cs
  if line.isSome ∧ (comma.isSome ∨ cs.head? = some ',') then .error .bothSeparators
  else .ok (comma.or line, cs)

def takePrecision (cs : List Char) : Except LayoutError (Option Nat × List Char) :=
  match cs with
  | '.' :: rest => do
    match ← takeNumber rest with
    | (none, _) => .error .missingPrecision
    | taken => return taken
  | cs => .ok (none, cs)

def isBinaryCode (c : Char) : Bool := ['b', 'o', 'x', 'X'].contains c

def isRealCode (c : Char) : Bool := ['e', 'E', 'f', 'F', 'g', 'G', '%'].contains c

/-- Groups are parted in decimal numbers, and by underscores in the other bases. -/
def checkSeparator (separator code : Option Char) : Except LayoutError Unit :=
  match separator, code with
  | some s, some c =>
    if c = 'd' || isRealCode c || (isBinaryCode c && s = '_') then .ok ()
    else .error (.badSeparator s c)
  | _, _ => .ok ()

/-- Reads a specification for a value of a kind, which has an alignment and a code of its own. -/
def read (kind : String) (alignment : Alignment) (code : Option Char) (spec : List Char) :
    Except LayoutError FieldSpec := do
  let (fill, align, rest) := takeAlignment spec
  let (sign, rest) := takeIf [' ', '+', '-'].contains rest
  let (zero, rest) := takeIf (· = 'z') rest
  let (alternate, rest) := takeIf (· = '#') rest
  let (zeros, rest) := if fill.isNone then takeIf (· = '0') rest else (none, rest)
  let (width, rest) ← takeNumber rest
  let (separator, rest) ← takeSeparator rest
  let (precision, rest) ← takePrecision rest
  let code ← match rest with
    | [] => pure code
    | [c] => pure (some c)
    | _ => throw (.badSpec (String.ofList spec) kind)
  checkSeparator separator code
  let usual := if zeros.isSome ∧ alignment = .right then .inside else alignment
  return {
    fill := (fill.or zeros).getD ' '
    alignment := align.getD usual
    sign
    plainZero := zero.isSome
    alternate := alternate.isSome
    width := width.getD 0
    separator
    precision
    code }

/-- Fills a text up to the width; there is nothing inside of a text. -/
def pad (spec : FieldSpec) (body : List Char) : List Char :=
  let gap := spec.width - body.length
  let blanks := fun (n : Nat) => List.replicate n spec.fill
  match spec.alignment with
  | .left | .inside => body ++ blanks gap
  | .right => blanks gap ++ body
  | .center => blanks (gap / 2) ++ body ++ blanks (gap - gap / 2)

end FieldSpec

/-- The parts of the text of a number; `rest` is what follows the digits of the whole part. -/
structure NumberText where
  negative : Bool
  mark : List Char := []
  digits : List Char
  rest : List Char := []

namespace NumberText

/-- Digits from the last one on, in groups of a size with a separator between them, filled up with
zeros to a width; `fuel` bounds the number of groups. -/
def groups (separator : Char) (size : Nat) : Nat → List Char → Int → List Char
  | 0, ds, _ => ds
  | fuel + 1, ds, width =>
    let count := min (size : Int) (max (max (ds.length : Int) width) 1)
    let zeros := List.replicate (count.toNat - ds.length) '0'
    let group := ds.take count.toNat ++ zeros
    let ds := ds.drop count.toNat
    let width := width - count
    if ds.isEmpty ∧ width ≤ 0 then group
    else group ++ separator :: groups separator size fuel ds (width - 1)

def grouped (spec : FieldSpec) (width : Int) (ds : List Char) : List Char :=
  let size := if spec.code.any FieldSpec.isBinaryCode then 4 else 3
  match spec.separator with
  | some s => (groups s size (ds.length + width.toNat + 1) ds.reverse width).reverse
  | none => List.replicate (width.toNat - ds.length) '0' ++ ds

def signText (spec : FieldSpec) (t : NumberText) : List Char :=
  if t.negative then ['-']
  else
    match spec.sign with
    | some '+' => ['+']
    | some ' ' => [' ']
    | _ => []

def layout (spec : FieldSpec) (t : NumberText) : List Char :=
  let sign := signText spec t
  let outside := sign.length + t.mark.length + t.rest.length
  let zeros : Int :=
    if spec.fill = '0' ∧ spec.alignment = .inside then spec.width - outside else 0
  let digits := if t.digits.isEmpty then [] else grouped spec zeros t.digits
  let start := sign ++ t.mark
  let body := digits ++ t.rest
  if spec.alignment = .inside then
    let gap := spec.width - (start.length + body.length)
    start ++ List.replicate gap spec.fill ++ body
  else spec.pad (start ++ body)

end NumberText

namespace FieldSpec

/-- A text in a field. -/
def layText (spec : FieldSpec) (s : String) : Except LayoutError (List Char) :=
  if spec.code ≠ some 's' then .error (.unknownCode (spec.code.getD 's') "str")
  else if spec.sign.isSome then .error (.signOfText (spec.sign = some ' '))
  else if spec.plainZero then .error .negativeZeroOfText
  else if spec.alternate then .error .alternateText
  else if spec.alignment = .inside then .error .insideText
  else .ok (spec.pad (s.toList.take (spec.precision.getD s.length)))

/-- The numeral of a real for a code; without a code, a number of digits is the most that are
written, and `wholeMark` tells what becomes of whole numbers. -/
def numeralStyle (spec : FieldSpec) (wholeMark : Bool) : Decimal.NumeralStyle :=
  let places := spec.precision.getD 6
  let form : Decimal.NumeralForm := match spec.code with
    | some 'e' | some 'E' => .scientific places
    | some 'f' | some 'F' | some '%' => .fixed places
    | some _ => .general places false
    | none =>
      match spec.precision with
      | some count => .general count wholeMark
      | none => .shortest wholeMark
  { form, keepPoint := spec.alternate, capitals := spec.code.any Char.isUpper }

def realText (spec : FieldSpec) (wholeMark : Bool) (x : Float) : NumberText :=
  let text := (spec.numeralStyle wholeMark).write x
  let isZero := !Binary.isInfinite x &&
    (text.takeWhile (·.toLower ≠ 'e')).all fun c => !c.isDigit || c = '0'
  { negative := Binary.isNegative x && !x.isNaN && !(spec.plainZero && isZero)
    digits := text.takeWhile Char.isDigit
    rest := text.dropWhile Char.isDigit }

def maxPrecision : Nat := 2147483647

def layReal (spec : FieldSpec) (x : Float) : Except LayoutError (List Char) :=
  if spec.precision.any (maxPrecision < ·) then .error .precisionTooBig
  else
    let percent := spec.code = some '%'
    let t := spec.realText true (if percent then x * 100 else x)
    .ok ({ t with rest := t.rest ++ if percent then ['%'] else [] }.layout spec)

/-- The digits of a natural number and the mark of its base, for a code. -/
def wholeDigits (code : Char) (n : Nat) : List Char × List Char :=
  match code with
  | 'b' => (Nat.toDigits 2 n, ['0', 'b'])
  | 'o' => (Nat.toDigits 8 n, ['0', 'o'])
  | 'x' => (Nat.toDigits 16 n, ['0', 'x'])
  | 'X' => ((Nat.toDigits 16 n).map Char.toUpper, ['0', 'X'])
  | _ => (Nat.toDigits 10 n, [])

/-- A whole number in a field, or the character of that number. -/
def layWhole (spec : FieldSpec) (code : Char) (n : Int) : Except EvalError (List Char) := do
  if spec.precision.isSome then throw (.layout .integerPrecision)
  if spec.plainZero then throw (.layout .negativeZeroOfInteger)
  if code = 'c' then
    if spec.sign.isSome then throw (.layout .signOfCharacter)
    if spec.alternate then throw (.layout .alternateCharacter)
    if n < 0 ∨ 0x110000 ≤ n then
      throw (if Width.i64.holds n then .layout .characterRange else .intTooLargeForWord)
    return { negative := false, digits := [], rest := [Char.ofNat n.toNat] : NumberText }.layout spec
  else
    if !isBinaryCode code then
      let _ ← writeInt n
    let (digits, mark) := wholeDigits code n.natAbs
    return { negative := n < 0, mark := if spec.alternate then mark else [], digits : NumberText }.layout
      spec

/-- An integer in a field, by its code as a whole number or as a real. -/
def layInteger (spec : FieldSpec) (kind : String) (n : Int) : Except EvalError (List Char) :=
  let code := spec.code.getD 'd'
  if isRealCode code then do (spec.layReal (← Term.fitDouble n)).mapError .layout
  else if isBinaryCode code || ['c', 'd', 'n'].contains code then spec.layWhole code n
  else .error (.layout (.unknownCode code kind))

/-- A complex number in a field: in parentheses without a code, unless its real part is a positive zero
and left out. -/
def layComplex (spec : FieldSpec) (z : Complex) : Except LayoutError (List Char) :=
  if spec.precision.any (maxPrecision < ·) then .error .precisionTooBig
  else if spec.fill = '0' then .error .zeroFilledComplex
  else if spec.alignment = .inside then .error .insideComplex
  else
    let bare := spec.code.isNone
    let alone := bare && z.re == 0 && !Binary.isNegative z.re
    let part := { spec with width := 0, fill := ' ', alignment := .left }
    let re := if alone then [] else (part.realText false z.re).layout part
    let signed := if alone then part else { part with sign := some '+' }
    let im := (part.realText false z.im).layout signed
    let body := re ++ im ++ ['j']
    .ok (spec.pad (if bare && !alone then '(' :: body ++ [')'] else body))

end FieldSpec

namespace Value

/-- A value in a field; values that are neither numbers nor texts have no fields. -/
def inField (spec : String) (v : Value) : Except EvalError String :=
  let v := v.plain
  let read := fun (alignment : Alignment) (code : Option Char) => do
    let spec ← (FieldSpec.read v.kind alignment code spec.toList).mapError EvalError.layout
    if storedTextLength < spec.width then throw EvalError.outOfMemory else return spec
  let laid := fun (r : Except EvalError (List Char)) => r.map String.ofList
  let isKnown := fun (code : Option Char) (codes : List Char) (go : Except LayoutError (List Char)) =>
    match code with
    | some c => if codes.contains c then go else .error (.unknownCode c v.kind)
    | Option.none => go
  if spec.isEmpty then v.write
  else
    match v with
    | .text s => do laid (((← read .left (some 's')).layText s).mapError .layout)
    | .int n => do laid ((← read .right (some 'd')).layInteger v.kind n)
    | .bool b => do laid ((← read .right (some 'd')).layInteger v.kind (if b then 1 else 0))
    | .float x => do
      let spec ← read .right Option.none
      laid ((isKnown spec.code ['e', 'E', 'f', 'F', 'g', 'G', 'n', '%'] (spec.layReal x)).mapError
        .layout)
    | .complex z => do
      let spec ← read .right Option.none
      laid ((isKnown spec.code ['e', 'E', 'f', 'F', 'g', 'G', 'n'] (spec.layComplex z)).mapError
        .layout)
    | v => .error (.layout (.unsupportedSpec v.kind))

end Value

end Formulary

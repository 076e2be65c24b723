import Formulary.Value.Field

/-!
Templates: texts with directives such as `%-8.3f`, each of which stands for a value laid out as the
directive says; two percent signs stand for one. A template is filled with the items of a tuple, in
their order, or with one other value. Each has to be used exactly once; a machine number may also stay
unused.
-/

namespace Formulary

/-- A directive of a template; `index` is the place of its code. -/
structure Directive where
  flags : List Char
  width : Nat := 0
  precision : Option Nat := none
  code : Char
  index : Nat

namespace Directive

def has (d : Directive) (flag : Char) : Bool := d.flags.contains flag

def pad (d : Directive) (body : List Char) : List Char :=
  let gap := List.replicate (d.width - body.length) ' '
  if d.has '-' then body ++ gap else gap ++ body

/-- A text cut down to the precision. -/
def layText (d : Directive) (s : String) : List Char :=
  d.pad (s.toList.take (d.precision.getD s.length))

/-- The text of a number in the width of a directive, with zeros behind its sign if asked for. -/
def layNumber (d : Directive) (t : NumberText) : List Char :=
  let sign :=
    if t.negative then ['-'] else if d.has '+' then ['+'] else if d.has ' ' then [' '] else []
  let start := sign ++ t.mark
  let body := t.digits ++ t.rest
  if d.has '0' && !d.has '-' then
    start ++ List.replicate (d.width - (start.length + body.length)) '0' ++ body
  else d.pad (start ++ body)

def wholePart (x : Float) : Except EvalError Int :=
  if x.isNaN then .error (.layout .undefinedToInteger)
  else
    match Binary.toInt? (if Binary.isNegative x then Binary.ceil x else Binary.floor x) with
    | some n => .ok n
    | none => .error (.layout .infinityToInteger)

/-- The integer that a directive of whole numbers shows of a value. In the bases other than ten the
value has to be an integer itself. -/
def wholeOf (d : Directive) (v : Value) : Except EvalError Int :=
  let strict := FieldSpec.isBinaryCode d.code
  match v with
  | .int n => .ok n
  | .bool b => .ok (if b then 1 else 0)
  | .machine m =>
    match m.toInt? with
    | some n => .ok n
    | none =>
      if strict then .error (.layout (.integerRequired d.code v.kind)) else wholePart m.toFloat
  | .float x => if strict then .error (.layout (.integerRequired d.code v.kind)) else wholePart x
  | v =>
    .error (.layout (if strict then .integerRequired d.code v.kind else .realRequired d.code v.kind))

/-- The real that a directive of reals shows of a value. -/
def realOf (v : Value) : Except EvalError Float :=
  match v with
  | .int n => Term.fitDouble n
  | .bool b => .ok (if b then 1 else 0)
  | .float x => .ok x
  | .machine m => .ok m.toFloat
  | v => .error (.notReal v.kind)

/-- The character of a value: a text of one character, or the character of a number. -/
def characterOf (v : Value) : Except EvalError Char :=
  let ofNumber := fun (n : Int) =>
    if 0 ≤ n ∧ n < 0x110000 then .ok (Char.ofNat n.toNat) else .error (.layout .characterRange)
  match v with
  | .text s =>
    match s.toList with
    | [c] => .ok c
    | _ => .error (.layout .characterRequired)
  | .int n => ofNumber n
  | .bool b => ofNumber (if b then 1 else 0)
  | .machine m =>
    match m.toInt? with
    | some n => ofNumber n
    | none => .error (.layout .characterRequired)
  | _ => .error (.layout .characterRequired)

/-- The text of a value with every character beyond ASCII written by its code point. -/
def escaped (s : String) : String :=
  String.ofList (s.toList.flatMap fun c => if c.toNat < 128 then [c] else Text.codePointEscape c)

def lay (d : Directive) (v : Value) : Except EvalError (List Char) :=
  let code := d.code
  if code = 's' then v.write.map d.layText
  else if code = 'r' then v.source.map d.layText
  else if code = 'a' then v.source.map fun s => d.layText (escaped s)
  else if code = 'c' then (characterOf v).map fun c => d.pad [c]
  else if ['d', 'i', 'u', 'o', 'x', 'X'].contains code then do
    let n ← d.wholeOf v
    if !FieldSpec.isBinaryCode code then
      let _ ← writeInt n
    let (digits, mark) := FieldSpec.wholeDigits code n.natAbs
    let zeros := List.replicate (d.precision.getD 0 - digits.length) '0'
    return d.layNumber
      { negative := n < 0, mark := if d.has '#' then mark else [], digits := zeros ++ digits }
  else if ['e', 'E', 'f', 'F', 'g', 'G'].contains code then do
    let x ← realOf v
    let spec : FieldSpec :=
      { alignment := .right, alternate := d.has '#', precision := d.precision, code := some code }
    return d.layNumber (spec.realText false x)
  else .error (.layout (.unknownDirective code d.index))

end Directive

namespace Template

/-- How far a template has been read: the place in it, the values that are not used yet, and what is
left. -/
structure Place where
  index : Nat
  unused : List Value
  rest : List Char

def Place.skip (p : Place) (n : Nat) : Place :=
  { p with index := p.index + n, rest := p.rest.drop n }

/-- A directive in front of its code: a key asks for a value by a name, which machine numbers have
none of. -/
def checkKey (isMachine : Bool) (p : Place) : Except EvalError Unit :=
  if p.rest.head? ≠ some '(' then .ok ()
  else if !isMachine then .error (.layout .mappingRequired)
  else
    let depths := p.rest.scanl (fun (depth : Int) c =>
      if c = '(' then depth + 1 else if c = ')' then depth - 1 else depth) 0
    if (depths.drop 1).contains 0 then .error .scalarIndex
    else .error (.layout .incompleteKey)

/-- A width or precision: a number, or the next value where a star stands. -/
def takeSize (p : Place) : Except EvalError (Option Int × Place) :=
  match p.rest with
  | '*' :: _ =>
    match p.unused with
    | [] => .error (.layout .missingValue)
    | .int n :: unused => .ok (some n, { p.skip 1 with unused })
    | .bool b :: unused => .ok (some (if b then 1 else 0), { p.skip 1 with unused })
    | _ :: _ => .error (.layout .widthNotInteger)
  | cs =>
    let ds := cs.takeWhile Char.isDigit
    .ok (if ds.isEmpty then none else some (Decimal.ofDigits 10 ds), p.skip ds.length)

def takeDirective (isMachine : Bool) (p : Place) : Except EvalError (Directive × Place) := do
  checkKey isMachine p
  let flags := p.rest.takeWhile ['-', '+', ' ', '#', '0'].contains
  let (width, p) ← takeSize (p.skip flags.length)
  let (precision, p) ← (if p.rest.head? = some '.' then do
      let (size, p) ← takeSize (p.skip 1)
      return (some (size.getD 0).toNat, p)
    else return (none, p) : Except EvalError (Option Nat × Place))
  let p := if p.rest.head?.any ['h', 'l', 'L'].contains then p.skip 1 else p
  if storedTextLength < (width.getD 0).natAbs then throw .outOfMemory
  if precision.any (FieldSpec.maxPrecision < ·) then throw (.layout .precisionTooBig)
  match p.rest with
  | [] => throw (.layout .incompleteDirective)
  | code :: _ =>
    let turned := width.any (· < 0)
    return ({
      flags := if turned then '-' :: flags else flags
      width := (width.getD 0).natAbs
      precision
      code
      index := p.index }, p.skip 1)

/-- Fills a template from a place on; `fuel` bounds the number of characters. -/
def fillFrom (isMachine : Bool) : Nat → Place → Except EvalError (List Char)
  | 0, _ => .ok []
  | fuel + 1, p =>
    match p.rest with
    | [] => if p.unused.isEmpty || isMachine then .ok [] else .error (.layout .unusedValue)
    | '%' :: '%' :: _ => do return '%' :: (← fillFrom isMachine fuel (p.skip 2))
    | '%' :: _ => do
      let (d, p) ← takeDirective isMachine (p.skip 1)
      match p.unused with
      | [] => throw (.layout .missingValue)
      | v :: unused =>
        let text ← d.lay v
        return text ++ (← fillFrom isMachine fuel { p with unused })
    | c :: _ => do return c :: (← fillFrom isMachine fuel (p.skip 1))

/-- The values that a template is filled with. -/
def valuesOf : Value → List Value
  | .tuple items => items.map .int
  | v => [v]

def fill (template : String) (v : Value) : Except EvalError String :=
  (fillFrom v.isMachine (template.length + 1) ⟨0, valuesOf v, template.toList⟩).map String.ofList

end Template

end Formulary

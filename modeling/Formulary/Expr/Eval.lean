import Formulary.Expr.Statement
import Formulary.Scope
import Formulary.Value.Call

/-!
Evaluation of expressions. A name means its binding in the scope, else the constant of that name,
else the function; what is called is always a function. Evaluation goes through the operands from
left to right and stops at the first cause of failure.
-/

namespace Formulary

/-- What an expression is evaluated in: the scope, and the text that failures tell of. -/
structure Setting where
  scope : Scope
  source : String

namespace Setting

/-- The meaning of a name. -/
def valueOf (env : Setting) (name : String) : Except EvalError Value :=
  match env.scope.get? name with
  | some v => .ok v
  | none =>
    match Constant.ofName? name with
    | some c => .ok (.float c.value)
    | none =>
      match Function.ofName? name with
      | some f => .ok (.function f)
      | none => .error (.unknownName name env.source)

def functionOf (env : Setting) (name : String) : Except EvalError Function :=
  match Function.ofName? name with
  | some f => .ok f
  | none => .error (.unknownFunction name env.source)

end Setting

def Literal.value : Literal → Except EvalError Value
  | .int n => .ok (.int n)
  | .float x => .ok (.float x)
  | .imaginary x => .ok (.complex ⟨0, x⟩)
  | .bool b => .ok (.bool b)
  | .none => .ok .none
  | .ellipsis => .ok .ellipsis
  | .text s =>
    if Value.maxTextLength < s.length then .error (.literalTooLong s.length) else .ok (.text s)

/-- Attributes that are not shown. -/
def checkAttribute (name : String) : Except EvalError Unit :=
  if name.startsWith "_" ∨ name.startsWith "func_" then .error (.hiddenAttribute name)
  else if name = "format" ∨ name = "format_map" ∨ name = "mro" then .error (.hiddenMethod name)
  else .ok ()

/-- An attribute of a value. -/
def attributeOf (source : String) (v : Value) (name : String) : Except EvalError Value :=
  match v.attribute? name with
  | some w => .ok w
  | none =>
    match v with
    | .machine _ => .error .scalarIndex
    | _ => .error (.unknownAttribute name source)

/-- A call of a value that is no name. -/
def callValue (v : Value) (args : List Value) (named : List (String × Value)) :
    Except EvalError Value :=
  match v with
  | .method receiver m => if args.isEmpty && named.isEmpty then receiver.callMethod m
    else .error (.positionalCount "method" 0 0 args.length)
  | .function f => f.call args named
  | v => .error (.notCallable v.kind)

/-- The named arguments of a call; a group of them cannot be spread, and a name that is given again
takes the later value. -/
def spreadNamed (named : List (Option String × Value)) : Except EvalError (List (String × Value)) := do
  let each ← named.mapM fun
    | (some name, v) => .ok (name, v)
    | (none, _) => .error EvalError.keywordNames
  return Scope.ofList each

def sameVariable : Expr → Expr → Bool
  | .name a, .name b => a == b
  | _, _ => false

namespace Expr

mutual

/-- The value of an expression. -/
def eval (env : Setting) : Expr → Except EvalError Value
  | .literal v => v.value
  | .name s => env.valueOf s
  | .unary op e => do
    let v ← eval env e
    Value.unary op v
  | .binary op a b =>
    if op = .matMul then .error (.noOperator "@" env.source)
    else do
      let x ← eval env a
      let y ← eval env b
      Value.binary env.source op x y
  | .both a b => do
    let x ← eval env a
    if x.isTrue then eval env b else return x
  | .either a b => do
    let x ← eval env a
    if x.isTrue then return x else eval env b
  | .compare first rest => do
    let x ← eval env first
    evalComparisons env first x rest
  | .choice test yes no => do
    let t ← eval env test
    if t.isTrue then eval env yes else eval env no
  | .call (.name s) args named => do
    let f ← env.functionOf s
    let xs ← evalList env args
    let ns ← evalNamed env named
    f.call xs (← spreadNamed ns)
  | .call (.attribute e attr) args named => do
    checkAttribute attr
    let v ← attributeOf env.source (← eval env e) attr
    let xs ← evalList env args
    let ns ← evalNamed env named
    callValue v xs (← spreadNamed ns)
  | .call _ _ _ => .error .computedCall
  | .attribute e attr => do
    checkAttribute attr
    attributeOf env.source (← eval env e) attr
  | .item e (.slice low high step) => do
    let v ← eval env e
    let l ← evalOption env low
    let h ← evalOption env high
    let s ← evalOption env step
    Value.sliceOf v l h s
  | .item e index => do
    let v ← eval env e
    let i ← eval env index
    Value.itemAt v i
  | .slice .. => .error (.unavailable "Slice")
  | .joined parts => do return .text (← evalParts env 0 parts)
  | .replacement e none => eval env e
  | .replacement e (some format) => do
    let f ← eval env format
    let v ← eval env e
    return .text (← v.inField (← f.write))
  | .starred _ => .error (.unavailable "Starred")
  | .display kind _ => .error (.unavailable (Display.formName kind))
  | .form label => .error (.unavailable label)

/-- The outcome of a chain of comparisons behind a value: the first that fails, or the last. -/
def evalComparisons (env : Setting) (left : Expr) (x : Value) :
    List (CompareOp × Expr) → Except EvalError Value
  | [] => .ok (.bool true)
  | [(op, e)] => do
    let y ← eval env e
    Value.compare op (sameVariable left e) x y
  | (op, e) :: rest => do
    let y ← eval env e
    let r ← Value.compare op (sameVariable left e) x y
    if r.isTrue then evalComparisons env e y rest else return r

def evalList (env : Setting) : List Expr → Except EvalError (List Value)
  | [] => .ok []
  | e :: rest => do
    let v ← eval env e
    return v :: (← evalList env rest)

def evalNamed (env : Setting) :
    List (Option String × Expr) → Except EvalError (List (Option String × Value))
  | [] => .ok []
  | (label, e) :: rest => do
    let v ← eval env e
    return (label, v) :: (← evalNamed env rest)

def evalOption (env : Setting) : Option Expr → Except EvalError Value
  | none => .ok .none
  | some e => eval env e

/-- The parts of a text put together, as long as it is not too long. -/
def evalParts (env : Setting) (length : Nat) : List Expr → Except EvalError String
  | [] => .ok ""
  | e :: rest => do
    let s ← (← eval env e).write
    if Value.maxTextLength < length + s.length then throw .partsTooLong
    return s ++ (← evalParts env (length + s.length) rest)

end

end Expr

def Statement.eval (env : Setting) : Statement → Except EvalError Value
  | .value e => e.eval env
  | .form name => .error (.unavailable name)
  | .importing => .error .importing

def evalSource (scope : Scope) (source : String) : Except EvalError Value :=
  let text := Text.trimChars source.toList
  if text.contains (Char.ofNat 0) then .error .nullCharacter
  else
    match Expr.parse text with
    | .error r => .error (.malformed r)
    | .ok [] => .error .emptyText
    | .ok (s :: _) => s.eval ⟨scope, source⟩

end Formulary

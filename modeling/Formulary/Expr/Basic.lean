import Formulary.Decimal.Numeral

/-!
Expressions: what the text of a formula means before any name has a value. Forms that can be
written but not evaluated are kept with the name of their form.
-/

namespace Formulary

inductive UnaryOp where
  | negate | plus | invert | not
deriving DecidableEq, Repr

inductive BinaryOp where
  | add | sub | mul | div | floorDiv | mod | power | shiftLeft | shiftRight
  | bitAnd | bitOr | bitXor | matMul
deriving DecidableEq, Repr

inductive CompareOp where
  | eq | ne | lt | le | gt | ge | same | notSame | within | notWithin
deriving DecidableEq, Repr

/-- Values that are written out in an expression. -/
inductive Literal where
  | int (n : Int)
  | float (x : Float)
  | imaginary (x : Float)
  | text (s : String)
  | bool (b : Bool)
  | none
  | ellipsis

/-- Bracketed lists of expressions. -/
inductive Display where
  | tuple | list | set | dict
deriving DecidableEq, Repr

inductive Expr where
  | literal (v : Literal)
  | name (s : String)
  | unary (op : UnaryOp) (e : Expr)
  | binary (op : BinaryOp) (a b : Expr)
  | both (a b : Expr)
  | either (a b : Expr)
  | compare (first : Expr) (rest : List (CompareOp × Expr))
  | choice (test yes no : Expr)
  | call (f : Expr) (args : List Expr) (named : List (Option String × Expr))
  | attribute (e : Expr) (name : String)
  | item (e index : Expr)
  | slice (low high step : Option Expr)
  | joined (parts : List Expr)
  | replacement (e : Expr) (format : Option Expr)
  | starred (e : Expr)
  | display (kind : Display) (items : List Expr)
  | form (name : String)

/-- A statement: its value, or a form that has none. -/
inductive Statement where
  | value (e : Expr)
  | form (name : String)
  | importing

namespace Expr

def Display.formName : Display → String
  | .tuple => "Tuple"
  | .list => "List"
  | .set => "Set"
  | .dict => "Dict"

/-- How an expression is called when it stands where a target should. -/
def targetName : Expr → String
  | .literal (.bool true) => "True"
  | .literal (.bool false) => "False"
  | .literal .none => "None"
  | .literal .ellipsis => "ellipsis"
  | .literal _ => "literal"
  | .name _ => "name"
  | .unary .. | .binary .. | .both .. | .either .. => "expression"
  | .compare .. => "comparison"
  | .choice .. => "conditional expression"
  | .call .. => "function call"
  | .attribute .. => "attribute"
  | .item .. | .slice .. => "subscript"
  | .joined .. | .replacement .. => "f-string expression"
  | .starred _ => "starred"
  | .display .tuple _ => "tuple"
  | .display .list _ => "list"
  | .display .set _ => "set display"
  | .display .dict _ => "dict literal"
  | .form "Lambda" => "lambda"
  | .form "NamedExpr" => "named expression"
  | .form "GeneratorExp" => "generator expression"
  | .form "ListComp" => "list comprehension"
  | .form "SetComp" => "set comprehension"
  | .form "DictComp" => "dict comprehension"
  | .form kind => kind

mutual

/-- The first part of an expression that cannot be assigned to. -/
def invalidTarget? : Expr → Option Expr
  | .name _ | .attribute .. | .item .. => none
  | .starred e => invalidTarget? e
  | .display .tuple items => invalidTargetIn? items
  | .display .list items => invalidTargetIn? items
  | e => some e

def invalidTargetIn? : List Expr → Option Expr
  | [] => none
  | e :: rest => (invalidTarget? e).or (invalidTargetIn? rest)

end

def isSingleTarget : Expr → Bool
  | .name _ | .attribute .. | .item .. => true
  | _ => false

end Expr

end Formulary

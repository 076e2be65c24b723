import Formulary.Decimal.Numeral
import Formulary.Decimal.Style
import Formulary.Json.Basic
import Formulary.Text.Quoted

/-!
Two texts of a JSON value: its JSON text, and its text in the formula language, where the constants
are `None`, `True` and `False` and texts are quoted as there.
-/

namespace Formulary.Json

/-- How a character stands inside a JSON text. -/
def escapedChar (c : Char) : List Char :=
  if c = '"' then ['\\', '"']
  else if c = '\\' then ['\\', '\\']
  else if c.toNat < 32 then '\\' :: 'u' :: Text.hexDigits 4 c.toNat
  else [c]

def escaped (s : String) : String := String.ofList ('"' :: s.toList.flatMap escapedChar ++ ['"'])

def numberStyle : Decimal.Style := ⟨-4, 16, true, 2, "NaN", "Infinity"⟩

mutual

/-- The JSON text of a value. -/
def text : Json → String
  | .null => "null"
  | .bool b => if b then "true" else "false"
  | .int n => toString n
  | .float x => numberStyle.write Binary.binary64 (Binary.decode x)
  | .str s => escaped s
  | .arr items => "[" ++ ",".intercalate (textItems items) ++ "]"
  | .obj fields => "\x7b" ++ ",".intercalate (textFields fields) ++ "\x7d"

def textItems : List Json → List String
  | [] => []
  | v :: rest => text v :: textItems rest

def textFields : List (String × Json) → List String
  | [] => []
  | (name, v) :: rest => (escaped name ++ ":" ++ text v) :: textFields rest

end

mutual

/-- The text of a value in the formula language. -/
def source : Json → String
  | .null => "None"
  | .bool b => if b then "True" else "False"
  | .int n => toString n
  | .float x => Decimal.source x
  | .str s => Text.quoted s
  | .arr items => "[" ++ ", ".intercalate (sourceItems items) ++ "]"
  | .obj fields => "\x7b" ++ ", ".intercalate (sourceFields fields) ++ "\x7d"

def sourceItems : List Json → List String
  | [] => []
  | v :: rest => source v :: sourceItems rest

def sourceFields : List (String × Json) → List String
  | [] => []
  | (name, v) :: rest => (Text.quoted name ++ ": " ++ source v) :: sourceFields rest

end

/-- Why a value has no text in the formula language. -/
inductive Unwritable where
  | tooManyDigits
  | tooDeep
deriving DecidableEq, Repr

def Unwritable.family : Unwritable → String
  | tooManyDigits => "ValueError"
  | tooDeep => "RecursionError"

def Unwritable.message : Unwritable → String
  | tooManyDigits => s!"Exceeds the limit ({Decimal.maxIntegerDigits} digits) for integer string " ++
      "conversion; use sys.set_int_max_str_digits() to increase the limit"
  | tooDeep => "maximum recursion depth exceeded while getting the repr of an object"

mutual

/-- The first fault met in writing a value that may nest as deep as there is room. -/
def unwritable? : Nat → Json → Option Unwritable
  | _, .int n => if Nat.pow 10 Decimal.maxIntegerDigits ≤ n.natAbs then some .tooManyDigits else none
  | room + 1, .arr items => unwritableItem? room items
  | room + 1, .obj fields => unwritableField? room fields
  | 0, .arr _ | 0, .obj _ => some .tooDeep
  | _, _ => none

def unwritableItem? : Nat → List Json → Option Unwritable
  | _, [] => none
  | room, v :: rest => unwritable? room v <|> unwritableItem? room rest

def unwritableField? : Nat → List (String × Json) → Option Unwritable
  | _, [] => none
  | room, (_, v) :: rest => unwritable? room v <|> unwritableField? room rest

end

/-- A text as it is, any other value in the formula language. -/
def plain : Json → String
  | .str s => s
  | v => source v

def kind : Json → String
  | .null => "NoneType"
  | .bool _ => "bool"
  | .int _ => "int"
  | .float _ => "float"
  | .str _ => "str"
  | .arr _ => "list"
  | .obj _ => "dict"

end Formulary.Json

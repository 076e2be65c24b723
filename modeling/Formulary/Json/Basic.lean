/-!
JSON values. Whole numbers and numbers with a point or exponent are kept apart, the fields of an
object keep their order, and of fields with one name the last value stands in the first place.
-/

namespace Formulary

inductive Json where
  | null
  | bool (b : Bool)
  | int (n : Int)
  | float (x : Float)
  | str (s : String)
  | arr (items : List Json)
  | obj (fields : List (String × Json))

namespace Json

/-- How deep a value may nest to be read or written: what the limit of a thousand nested calls leaves
to it. -/
def maxNesting : Nat := 988

/-- Puts a field behind the others, or in the place of the field of the same name. -/
def setField (fields : List (String × Json)) (name : String) (v : Json) : List (String × Json) :=
  match fields with
  | [] => [(name, v)]
  | (n, w) :: rest => if n = name then (n, v) :: rest else (n, w) :: setField rest name v

def field? (name : String) : Json → Option Json
  | .obj fields => fields.lookup name
  | _ => none

end Json

end Formulary

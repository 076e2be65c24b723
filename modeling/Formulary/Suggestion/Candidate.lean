import Formulary.Notice
import Formulary.Formula.Basic

/-!
Candidates: operands that are offered while a name is typed. A source hands them over as a list of
objects that hold a name and perhaps an identifier; an item without a name is left out.
-/

namespace Formulary

namespace Operand

/-- The operand of an item: an object whose name is a text. An identifier that is no text is taken by
its text in the formula language, if `idFault?` finds that it has one. -/
def ofItem? (item : Json) : Option Operand :=
  match item.field? "name" with
  | some (.str name) =>
    match item.field? "id" with
    | none | some .null => some { name }
    | some id => some { name, id := some id.plain }
  | _ => none

def idFault? (item : Json) : Option Json.Unwritable :=
  match item.field? "name" with
  | some (.str _) => (item.field? "id").bind (Json.unwritable? Json.maxNesting)
  | _ => none

/-- The item of an operand. -/
def toItem (x : Operand) : Json :=
  .obj [("id", (x.id.map Json.str).getD .null), ("name", .str x.name)]

theorem ofItem?_toItem (x : Operand) : ofItem? x.toItem = some x := by
  cases x with
  | mk name id => cases id <;> simp [toItem, ofItem?, Json.field?, List.lookup_cons, Json.plain]

end Operand

namespace Suggestion

/-- The candidates among the items of an answer, with a notice for each item left out. -/
def ofItems : List Json → Noted (List Operand)
  | [] => pure []
  | item :: rest =>
    match Operand.ofItem? item with
    | some x => do return x :: (← ofItems rest)
    | none => do
      Noted.tell (.skipped item)
      ofItems rest

theorem value_ofItems (items : List Json) :
    (ofItems items).value = items.filterMap Operand.ofItem? := by
  induction items with
  | nil => rfl
  | cons item rest ih =>
    unfold ofItems
    cases h : Operand.ofItem? item <;> simp [h, ih, Noted.tell]

/-- The candidates of an answer to a query, which has to be a list. -/
def ofPayload (query : String) (payload : Json) :
    Except MalformedPayload (Noted (List Operand)) :=
  match payload with
  | .arr items => .ok (ofItems items)
  | v => .error ⟨query, v.kind⟩

/-- Where the reading of an answer breaks off: the items in front of the first one whose identifier
cannot be taken, and the reason. -/
def breakOff? : Json → Option (List Json × Json.Unwritable)
  | .arr items =>
    (items.findSome? Operand.idFault?).map fun fault =>
      (items.takeWhile fun item => (Operand.idFault? item).isNone, fault)
  | _ => none

/-- The candidates that fit a formula: after an operator, none that reads as an operator. -/
def fitting (candidates : List Operand) (formula : List Token) : List Operand :=
  if Formula.endsInOperator formula then
    candidates.filter fun c => !isOperatorSymbol c.name
  else candidates

end Suggestion

end Formulary

import Formulary.Text.Case.Table
import Formulary.Text.Table

/-!
Letter case of whole texts. A character may have several lower- or upper-case characters, and a
capital sigma at the end of a word has the final form as its lower case.
-/

namespace Formulary.Text

def ofCodePoints (ns : List Nat) : List Char := ns.map Char.ofNat

/-- A case mapping beyond ASCII: the expansions first, then the runs, else the character itself. -/
def mapCase (expansions : List (Nat × List Nat)) (runs : List CaseRun) (c : Char) : List Char :=
  match expansions.lookup c.toNat with
  | some ns => ofCodePoints ns
  | none =>
    match runs.findSome? (·.target? c.toNat) with
    | some n => [Char.ofNat n]
    | none => [c]

/-- The lower case of a character that is not a capital sigma. -/
def lowerChar (c : Char) : List Char :=
  if c.toNat < 128 then [c.toLower] else mapCase lowerExpansions lowerRuns c

/-- The upper case of a character. -/
def upperChar (c : Char) : List Char :=
  if c.toNat < 128 then [c.toUpper] else mapCase upperExpansions upperRuns c

def isCased (c : Char) : Bool := covered casedIntervals c.toNat

def isCaseIgnorable (c : Char) : Bool := covered caseIgnorableIntervals c.toNat

/-- The nearest character that is not skipped has case. -/
def reachesCased (cs : List Char) : Bool :=
  match cs.dropWhile isCaseIgnorable with
  | [] => false
  | c :: _ => isCased c

/-- A capital sigma is final when a cased character comes before it and none after it. -/
def isFinalSigma (before after : List Char) : Bool :=
  reachesCased before && !reachesCased after

/-- The lower case of a text; `before` holds the characters already passed, nearest first. -/
def lowerFrom (before : List Char) : List Char → List Char
  | [] => []
  | c :: cs =>
    (if c = 'Σ' then [if isFinalSigma before cs then 'ς' else 'σ'] else lowerChar c) ++
      lowerFrom (c :: before) cs

def lower (s : String) : String := String.ofList (lowerFrom [] s.toList)

def upper (s : String) : String := String.ofList (s.toList.flatMap upperChar)

end Formulary.Text

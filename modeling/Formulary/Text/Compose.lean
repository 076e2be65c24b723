import Formulary.Text.Compose.Table

/-!
Names are compared in composed compatibility form: every character is decomposed, marks are put in
the order of their combining classes, and what can be composed is composed again.
-/

namespace Formulary.Text

/-- Hangul syllables, composed from and decomposed to their parts by arithmetic. -/
structure HangulBlock where
  first : Nat := 0xAC00
  lead : Nat := 0x1100
  vowel : Nat := 0x1161
  tail : Nat := 0x11A7
  leads : Nat := 19
  vowels : Nat := 21
  tails : Nat := 28

def hangul : HangulBlock := {}

def HangulBlock.decompose? (h : HangulBlock) (n : Nat) : Option (List Nat) :=
  if h.first ≤ n ∧ n < h.first + h.leads * h.vowels * h.tails then
    let s := n - h.first
    let parts := [h.lead + s / (h.vowels * h.tails), h.vowel + s % (h.vowels * h.tails) / h.tails]
    some (if s % h.tails = 0 then parts else parts ++ [h.tail + s % h.tails])
  else none

/-- The Hangul syllable of a lead and a vowel, or of a syllable without tail and a tail. -/
def HangulBlock.compose? (h : HangulBlock) (a b : Nat) : Option Nat :=
  if h.lead ≤ a ∧ a < h.lead + h.leads ∧ h.vowel ≤ b ∧ b < h.vowel + h.vowels then
    some (h.first + ((a - h.lead) * h.vowels + (b - h.vowel)) * h.tails)
  else if h.first ≤ a ∧ a < h.first + h.leads * h.vowels * h.tails ∧
      (a - h.first) % h.tails = 0 ∧ h.tail < b ∧ b < h.tail + h.tails then
    some (a + (b - h.tail))
  else none

/-- The compatibility decomposition of a code point. -/
def decompose (n : Nat) : List Nat :=
  if n < 128 then [n]
  else
    match hangul.decompose? n with
    | some parts => parts
    | none =>
      (decompositionRows.findSome? fun
        | first :: count :: head :: rest =>
          if first ≤ n ∧ n < first + count then some ((head + (n - first)) :: rest) else none
        | _ => none).getD [n]

def combiningClass (n : Nat) : Nat :=
  if n < 0x300 then 0
  else
    (combiningRows.findSome? fun
      | [lo, hi, cls] => if lo ≤ n ∧ n ≤ hi then some cls else none
      | _ => none).getD 0

/-- The canonical composition of two code points. -/
def compose? (a b : Nat) : Option Nat :=
  match hangul.compose? a b with
  | some n => some n
  | none =>
    compositionRows.findSome? fun
      | [x, y, z] => if x = a ∧ y = b then some z else none
      | _ => none

/-- A code point with its combining class. -/
structure Mark where
  code : Nat
  cls : Nat

/-- Puts a code point behind the marks of a class not above its own. -/
def insertMark (m : Mark) : List Mark → List Mark
  | [] => [m]
  | x :: rest => if m.cls ≠ 0 ∧ m.cls < x.cls then m :: x :: rest else x :: insertMark m rest

def sortMarks (ms : List Mark) : List Mark := ms.foldl (fun acc m => insertMark m acc) []

/-- Starters keep their places, and the marks behind each are sorted. -/
def canonicalOrder (ms : List Mark) : List Mark :=
  let step := fun (acc : List Mark × List Mark) (m : Mark) =>
    if m.cls = 0 then (acc.1 ++ sortMarks acc.2 ++ [m], []) else (acc.1, acc.2 ++ [m])
  let (done, open_) := ms.foldl step ([], [])
  done ++ sortMarks open_

/-- Composition from left to right: `starter` takes in what follows unless a mark of the same or a
higher class, kept in `kept`, stands between. -/
def composeFrom (starter : Option Nat) (kept : List Mark) : List Mark → List Nat
  | [] => starter.toList ++ kept.map (·.code)
  | m :: rest =>
    let blocked := match kept.getLast? with
      | none => false
      | some k => k.cls ≥ m.cls
    match starter with
    | some s =>
      match if blocked then none else compose? s m.code with
      | some z => composeFrom (some z) kept rest
      | none =>
        if m.cls = 0 then s :: kept.map (·.code) ++ composeFrom (some m.code) [] rest
        else composeFrom (some s) (kept ++ [m]) rest
    | none =>
      if m.cls = 0 then kept.map (·.code) ++ composeFrom (some m.code) [] rest
      else composeFrom none (kept ++ [m]) rest

/-- The composed compatibility form of a text. -/
def normalize (s : String) : String :=
  if s.toList.all (·.toNat < 128) then s
  else
    let marks := (s.toList.flatMap fun c => decompose c.toNat).map fun n => ⟨n, combiningClass n⟩
    String.ofList ((composeFrom none [] (canonicalOrder marks)).map Char.ofNat)

end Formulary.Text

import Formulary.Proofs.Formula.Words
import Mathlib.Data.List.Chain

/-!
# The gaps of a formula's source

The source of a formula is put together from the sources of its parts. What stands between two parts
is told by the last text before the gap and the first one behind it: a multiplication sign where a
value is followed by the start of another one, else a space.
-/

namespace Formulary.Formula

/-- The first text is a value or ends one, the second is a value or starts one, and they are not a
function and the parenthesis of its arguments. -/
def Multiplies (left right : String) : Prop :=
  (left = ")" ∨ ∀ op : Operator, op.symbol ≠ left) ∧
    (right = "(" ∨ ∀ op : Operator, op.symbol ≠ right) ∧
    ¬ (right = "(" ∧ ∃ f : Function, f.name = left)

theorem isSome_find?_iff {α : Type} {all : List α} (hall : ∀ a, a ∈ all) {p : α → Bool} :
    (all.find? p).isSome = true ↔ ∃ a, p a = true := by
  rw [List.find?_isSome]
  constructor
  · rintro ⟨a, -, ha⟩
    exact ⟨a, ha⟩
  · rintro ⟨a, ha⟩
    exact ⟨a, hall a, ha⟩

theorem isOperatorSymbol_iff {text : String} :
    isOperatorSymbol text = true ↔ ∃ op : Operator, op.symbol = text := by
  have hall : ∀ op : Operator, op ∈ Operator.all := by
    intro op
    cases op <;> decide
  rw [isOperatorSymbol, Operator.ofSymbol?, isSome_find?_iff hall]
  simp only [decide_eq_true_eq]

theorem isSome_ofName?_iff {text : String} :
    (Function.ofName? text).isSome = true ↔ ∃ f : Function, f.name = text := by
  have hall : ∀ f : Function, f ∈ Function.all := by
    intro f
    cases f <;> decide
  rw [Function.ofName?, isSome_find?_iff hall]
  simp only [decide_eq_true_eq]

theorem juxtaposed_iff {left right : String} : juxtaposed left right = true ↔ Multiplies left right := by
  have hoperator : ∀ text, isOperatorSymbol text = false ↔ ∀ op : Operator, op.symbol ≠ text := by
    intro text
    rw [← Bool.not_eq_true, isOperatorSymbol_iff, not_exists]
  simp only [juxtaposed, endsValue, startsValue, Multiplies, Bool.and_eq_true, Bool.or_eq_true,
    Bool.not_eq_true', hoperator, beq_iff_eq, and_assoc]
  rw [← Bool.not_eq_true, Bool.and_eq_true, isSome_ofName?_iff, beq_iff_eq]

instance (left right : String) : Decidable (Multiplies left right) :=
  decidable_of_iff _ juxtaposed_iff

/-- What stands between two texts. -/
def gap (left right : String) : String := if Multiplies left right then " * " else " "

theorem withProducts_ne_nil {texts : List String} (h : texts ≠ []) : withProducts texts ≠ [] := by
  cases texts with
  | nil => exact absurd rfl h
  | cons x rest =>
    cases rest with
    | nil => exact List.cons_ne_nil x []
    | cons y rest =>
      rw [withProducts]
      split <;> exact List.cons_ne_nil x _

theorem sourceOfTexts_append (xs : List String) (x y : String) (ys : List String) :
    sourceOfTexts (xs ++ x :: y :: ys) =
      sourceOfTexts (xs ++ [x]) ++ gap x y ++ sourceOfTexts (y :: ys) := by
  have hleft : withProducts (xs ++ [x]) ≠ [] := withProducts_ne_nil (by simp)
  have hright : withProducts (y :: ys) ≠ [] := withProducts_ne_nil (List.cons_ne_nil y ys)
  have hspace : powerSigns " " = " " := by decide
  have hproduct : powerSigns "*" = "*" := by decide
  rw [sourceOfTexts, withProducts_append, gap]
  by_cases h : Multiplies x y
  · rw [if_pos h, if_pos (juxtaposed_iff.mpr h), List.append_assoc, List.singleton_append,
      String.intercalate_append_of_ne_nil hleft (List.cons_ne_nil _ _),
      String.intercalate_cons_of_ne_nil hright]
    simp only [powerSigns_append, hspace, hproduct, sourceOfTexts, String.append_assoc]
    rfl
  · rw [if_neg h, if_neg (mt juxtaposed_iff.mp h), List.append_nil,
      String.intercalate_append_of_ne_nil hleft hright]
    simp only [powerSigns_append, hspace, sourceOfTexts, String.append_assoc]

theorem toSource_append {a b : List Token} (ha : a ≠ []) (hb : b ≠ []) :
    toSource (a ++ b) =
      toSource a ++ gap (a.getLast ha).display (b.head hb).display ++ toSource b := by
  have hleft : a.map Token.display =
      a.dropLast.map Token.display ++ [(a.getLast ha).display] := by
    rw [← List.map_singleton, ← List.map_append, List.dropLast_concat_getLast ha]
  have hright : b.map Token.display = (b.head hb).display :: b.tail.map Token.display := by
    rw [← List.map_cons, List.cons_head_tail hb]
  rw [toSource, toSource, toSource, List.map_append, hleft, hright, List.append_assoc,
    List.singleton_append, sourceOfTexts_append]

theorem toSource_singleton (t : Token) : toSource [t] = powerSigns t.display := by
  rw [toSource, List.map_singleton, sourceOfTexts, withProducts, String.intercalate_singleton]

theorem toSource_cons_cons (t u : Token) (s : List Token) :
    toSource (t :: u :: s) =
      powerSigns t.display ++ gap t.display u.display ++ toSource (u :: s) := by
  have happend := toSource_append (List.cons_ne_nil t []) (List.cons_ne_nil u s)
  rw [toSource_singleton] at happend
  exact happend

theorem toSource_cons (t : Token) (s : List Token) :
    toSource (t :: s) =
      powerSigns t.display ++
        String.join (List.zipWith (fun l r => gap l.display r.display ++ powerSigns r.display)
          (t :: s) s) := by
  induction s generalizing t with
  | nil =>
    rw [toSource_singleton, List.zipWith_nil_right, String.join_nil, String.append_empty]
  | cons u s ih =>
    rw [toSource_cons_cons, ih, List.zipWith_cons_cons, String.join_cons, String.append_assoc,
      String.append_assoc]

/-! ## Formulas without a product in a gap -/

theorem powerSigns_render_cons_cons (t u : Token) (s : List Token) :
    powerSigns (render (t :: u :: s)) =
      powerSigns t.display ++ " " ++ powerSigns (render (u :: s)) := by
  have hspace : powerSigns " " = " " := by decide
  rw [render, List.map_cons, String.intercalate_cons_of_ne_nil (by simp), powerSigns_append,
    powerSigns_append, hspace]
  rfl

theorem length_render_le (s : List Token) :
    (powerSigns (render s)).length ≤ (toSource s).length := by
  induction s with
  | nil => exact Nat.le_refl _
  | cons t s ih =>
    cases s with
    | nil =>
      rw [toSource_singleton]
      exact Nat.le_refl _
    | cons u s =>
      have hgap : " ".length ≤ (gap t.display u.display).length := by
        rw [gap]
        split <;> decide
      rw [toSource_cons_cons, powerSigns_render_cons_cons]
      simp only [String.length_append]
      omega

/-- No gap holds a product exactly if the source is what is shown, but for the carets. -/
theorem toSource_eq_render_iff (s : List Token) :
    toSource s = powerSigns (render s) ↔
      s.IsChain fun l r => ¬ Multiplies l.display r.display := by
  induction s with
  | nil => exact iff_of_true rfl .nil
  | cons t s ih =>
    cases s with
    | nil => exact iff_of_true (toSource_singleton t) (.singleton t)
    | cons u s =>
      rw [List.isChain_cons_cons, ← ih, toSource_cons_cons, powerSigns_render_cons_cons]
      by_cases h : Multiplies t.display u.display
      · have hgap : gap t.display u.display = " * " := if_pos h
        have hlength := length_render_le (u :: s)
        refine iff_of_false (fun heq => ?_) (fun hand => hand.1 h)
        have hsame := congrArg String.length heq
        simp only [hgap, String.length_append] at hsame
        have hlong : " * ".length = 3 := by decide
        have hshort : " ".length = 1 := by decide
        omega
      · have hgap : gap t.display u.display = " " := if_neg h
        rw [hgap, String.append_right_inj]
        exact (and_iff_right h).symm

/-- The source of a formula is that of its parts with the gap between them. So it is its texts, carets
written as power signs, with a product in each gap between two values and a space in every other one,
and it is what is shown exactly if there is no gap of the first kind. -/
theorem toSource_compositional :
    (∀ (a b : List Token) (ha : a ≠ []) (hb : b ≠ []),
      toSource (a ++ b) =
        toSource a ++
          (if juxtaposed (a.getLast ha).display (b.head hb).display then " * " else " ") ++
          toSource b) ∧
    (∀ l r : String, juxtaposed l r = true ↔ Multiplies l r) ∧
    (∀ (t : Token) (s : List Token),
      toSource (t :: s) =
        powerSigns t.display ++
          String.join (List.zipWith
            (fun l r => (if Multiplies l.display r.display then " * " else " ") ++
              powerSigns r.display) (t :: s) s)) ∧
    ∀ s : List Token, toSource s = powerSigns (render s) ↔
      s.IsChain fun l r => ¬ Multiplies l.display r.display := by
  refine ⟨?_, fun l r => juxtaposed_iff, toSource_cons, toSource_eq_render_iff⟩
  intro a b ha hb
  rw [toSource_append ha hb, gap]
  simp only [juxtaposed_iff]

/-- A product of two parts, one with a power and one with a call. -/
theorem toSource_compositional_product :
    let a := ["2", "x", "^", "y"].map Token.ofText
    let b := ["sin", "(", "z", ")"].map Token.ofText
    a ≠ [] ∧ b ≠ [] ∧ toSource (a ++ b) = toSource a ++ " * " ++ toSource b ∧
      toSource a = "2 * x ** y" ∧ toSource b = "sin ( z )" := by
  intro a b
  refine ⟨by decide, by decide, ?_, by decide +kernel, by decide +kernel⟩
  exact toSource_compositional.1 a b (by decide) (by decide)

end Formulary.Formula

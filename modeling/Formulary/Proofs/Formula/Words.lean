import Formulary.Proofs.Formula.Grammar

/-!
# The words of a formula's source

The source of a phrase is its texts with a multiplication sign in exactly those gaps where a power
stands beside a product, and with the caret written as the power sign.
-/

namespace Formulary.Formula

open Formulary.Text

/-- The texts with single spaces between and carets written as power signs. -/
def spaced (ws : List String) : List Char := (powerSigns (" ".intercalate ws)).toList

@[simp] theorem powerSigns_append (s t : String) :
    powerSigns (s ++ t) = powerSigns s ++ powerSigns t := by
  simp [powerSigns, String.ofList_append]

theorem spaced_append {xs ys : List String} (hx : xs ≠ []) (hy : ys ≠ []) :
    spaced (xs ++ ys) = spaced xs ++ ' ' :: spaced ys := by
  have hspace : (powerSigns " ").toList = [' '] := by simp [powerSigns]
  simp only [spaced, String.intercalate_append_of_ne_nil hx hy, powerSigns_append,
    String.toList_append, hspace, List.append_assoc, List.singleton_append]

theorem spaced_cons {x : String} {ys : List String} (hy : ys ≠ []) :
    spaced (x :: ys) = spaced [x] ++ ' ' :: spaced ys := by
  rw [← spaced_append (List.cons_ne_nil x []) hy, List.singleton_append]

theorem spaced_singleton {s : String} (h : '^' ∉ s.toList) : spaced [s] = s.toList := by
  simp only [spaced, String.intercalate_singleton, powerSigns, String.toList_ofList]
  generalize s.toList = cs at h
  induction cs with
  | nil => rfl
  | cons c cs ih =>
    have hc : c ≠ '^' := fun hc => h (hc ▸ List.mem_cons_self)
    simp only [List.flatMap_cons, if_neg hc, ih fun hm => h (List.mem_cons_of_mem c hm),
      List.singleton_append]

theorem withProducts_append (xs : List String) (x y : String) (ys : List String) :
    withProducts (xs ++ x :: y :: ys) =
      withProducts (xs ++ [x]) ++ (if juxtaposed x y then ["*"] else []) ++
        withProducts (y :: ys) := by
  induction xs with
  | nil =>
    simp only [List.nil_append, withProducts]
    split <;> simp
  | cons a as ih =>
    cases as with
    | nil =>
      simp only [List.cons_append, List.nil_append, withProducts] at ih ⊢
      split <;> simp [ih]
    | cons b bs =>
      simp only [List.cons_append, withProducts] at ih ⊢
      split <;> simp [ih]

theorem withProducts_startsValue_false (xs : List String) {y : String} (ys : List String)
    (hy : startsValue y = false) :
    withProducts (xs ++ y :: ys) = withProducts xs ++ withProducts (y :: ys) := by
  rcases List.eq_nil_or_concat xs with rfl | ⟨init, x, rfl⟩
  · rfl
  · have hjux : juxtaposed x y = false := by simp [juxtaposed, hy]
    simp only [List.concat_eq_append, List.append_assoc, List.singleton_append]
    rw [withProducts_append, hjux]
    simp

theorem withProducts_endsValue_false (xs : List String) {x : String} (ys : List String)
    (hx : endsValue x = false) :
    withProducts (xs ++ x :: ys) = withProducts (xs ++ [x]) ++ withProducts ys := by
  cases ys with
  | nil => simp [withProducts]
  | cons y ys =>
    have hjux : juxtaposed x y = false := by simp [juxtaposed, hx]
    rw [withProducts_append, hjux]
    simp

/-- Around a sign nothing is put in. -/
theorem withProducts_sign (xs : List String) {op : String} (ys : List String)
    (hends : endsValue op = false) (hstarts : startsValue op = false) :
    withProducts (xs ++ op :: ys) = withProducts xs ++ op :: withProducts ys := by
  have hright := withProducts_endsValue_false [] ys hends
  rw [withProducts_startsValue_false xs ys hstarts]
  simpa [withProducts] using hright

theorem isOperatorSymbol_of_isPlainChar {s : String} {c : Char} (hmem : c ∈ s.toList)
    (hc : isPlainChar c = true) : isOperatorSymbol s = false := by
  have hnone : Operator.ofSymbol? s = none := by
    refine List.find?_eq_none.mpr fun op _ hop => ?_
    have hall : op.symbol.toList.any isPlainChar = false := by cases op <;> decide
    have hsym : op.symbol = s := of_decide_eq_true hop
    exact List.any_eq_false.mp hall c (hsym ▸ hmem) hc
  rw [isOperatorSymbol, hnone]
  rfl

/-- A text of letters, digits and underscores. -/
structure IsWord (s : String) : Prop where
  ne_nil : s.toList ≠ []
  plain : ∀ c ∈ s.toList, isPlainChar c = true

theorem isWord_name {s : String} (h : isPlainName s.toList = true) : IsWord s := by
  obtain ⟨c, rest, hs, -, hplain⟩ := isPlainName_iff.mp h
  exact ⟨hs ▸ List.cons_ne_nil c rest, hplain⟩

@[simp] theorem toList_numeral (n : Nat) : (toString n).toList = Nat.toDigits 10 n := by
  rw [Nat.toString_eq_repr, Nat.toList_repr]

theorem isWord_numeral (n : Nat) : IsWord (toString n) where
  ne_nil := toList_numeral n ▸ Nat.toDigits_ne_nil
  plain _ hc := isPlainChar_of_mem_numeral (toList_numeral n ▸ hc)

theorem IsWord.isOperatorSymbol {s : String} (h : IsWord s) : isOperatorSymbol s = false :=
  isOperatorSymbol_of_isPlainChar (List.head_mem h.ne_nil) (h.plain _ (List.head_mem h.ne_nil))

theorem IsWord.endsValue {s : String} (h : IsWord s) : endsValue s = true := by
  simp [Formula.endsValue, h.isOperatorSymbol]

theorem IsWord.startsValue {s : String} (h : IsWord s) : startsValue s = true := by
  simp [Formula.startsValue, h.isOperatorSymbol]

theorem IsWord.spaced {s : String} (h : IsWord s) : spaced [s] = s.toList :=
  spaced_singleton fun hm => ne_of_isPlainChar (h.plain _ hm) (by decide) rfl

theorem ofName?_numeral (n : Nat) : Function.ofName? (toString n) = none := by
  refine List.find?_eq_none.mpr fun f _ hf => ?_
  have hall : f.name.toList.head?.any Char.isDigit = false := by cases f <;> decide
  have hname : f.name = toString n := of_decide_eq_true hf
  obtain ⟨c, cs, hcs⟩ := List.exists_cons_of_ne_nil (Nat.toDigits_ne_nil (n := n) (b := 10))
  have hdigit : c.isDigit = true := isDigit_of_mem_numeral (n := n) (hcs ▸ List.mem_cons_self)
  rw [hname, toList_numeral, hcs, List.head?_cons, Option.any_some, hdigit] at hall
  exact Bool.noConfusion hall

/-- The last text ends a value and is not the name of a function. -/
def EndsInValue (xs : List String) : Prop :=
  ∃ init x, xs = init ++ [x] ∧ endsValue x = true ∧ Function.ofName? x = none

theorem EndsInValue.append {ys : List String} (h : EndsInValue ys) (xs : List String) :
    EndsInValue (xs ++ ys) := by
  obtain ⟨init, x, rfl, hx⟩ := h
  exact ⟨xs ++ init, x, (List.append_assoc xs init [x]).symm, hx⟩

theorem EndsInValue.cons {ys : List String} (h : EndsInValue ys) (x : String) :
    EndsInValue (x :: ys) := h.append [x]

/-- The first text starts a value. -/
def StartsWithValue (xs : List String) : Prop :=
  ∃ y rest, xs = y :: rest ∧ startsValue y = true

theorem StartsWithValue.append {xs : List String} (h : StartsWithValue xs) (ys : List String) :
    StartsWithValue (xs ++ ys) := by
  obtain ⟨y, rest, rfl, hy⟩ := h
  exact ⟨y, rest ++ ys, rfl, hy⟩

/-- Between values a multiplication sign is put in. -/
theorem withProducts_values {xs ys : List String} (hx : EndsInValue xs) (hy : StartsWithValue ys) :
    withProducts (xs ++ ys) = withProducts xs ++ "*" :: withProducts ys := by
  obtain ⟨init, x, rfl, hends, hname⟩ := hx
  obtain ⟨y, rest, rfl, hstarts⟩ := hy
  have hjux : juxtaposed x y = true := by simp [juxtaposed, hends, hstarts, hname]
  rw [List.append_assoc, List.singleton_append, withProducts_append, hjux]
  simp

namespace Phrase

variable {l : Level} {scope : Scope} {env : String → Int}

/-- The texts of a phrase with the products written out. -/
def words : {l : Level} → Phrase l → List String
  | _, literal n => [toString n]
  | _, name s => [s]
  | _, group e => "(" :: (e.words ++ [")"])
  | _, base p => p.words
  | _, raised p f => p.words ++ "^" :: f.words
  | _, unsigned g => g.words
  | _, minus f => "-" :: f.words
  | _, factor f => f.words
  | _, times p f => p.words ++ "*" :: f.words
  | _, beside p g => p.words ++ "*" :: g.words
  | _, term p => p.words
  | _, plus e p => e.words ++ "+" :: p.words
  | _, less e p => e.words ++ "-" :: p.words

@[simp] theorem words_ne_nil (t : Phrase l) : t.words ≠ [] := by
  induction t <;> simp_all [words]

theorem endsInValue_texts (t : Phrase l) (h : t.Admissible scope env) : EndsInValue t.texts := by
  induction t with
  | literal n => exact ⟨[], toString n, rfl, (isWord_numeral n).endsValue, ofName?_numeral n⟩
  | name s => exact ⟨[], s, rfl, (isWord_name h.plain).endsValue, h.notFunction⟩
  | group e => exact ⟨"(" :: e.texts, ")", rfl, by decide, by decide⟩
  | base p ih | unsigned p ih | factor p ih | term p ih => exact ih h
  | minus f ih => exact (ih h).cons "-"
  | raised p f _ ih => exact ((ih h.2.1).cons "^").append p.texts
  | times p f _ ih => exact ((ih h.2).cons "*").append p.texts
  | beside p g _ ih => exact (ih h.2).append p.texts
  | plus e p _ ih => exact ((ih h.2).cons "+").append e.texts
  | less e p _ ih => exact ((ih h.2).cons "-").append e.texts

theorem startsWithValue_primary (p : Phrase .primary) (h : p.Admissible scope env) :
    StartsWithValue p.texts := by
  cases p with
  | literal n => exact ⟨toString n, [], rfl, (isWord_numeral n).startsValue⟩
  | name s => exact ⟨s, [], rfl, (isWord_name h.plain).startsValue⟩
  | group e => exact ⟨"(", e.texts ++ [")"], rfl, by decide⟩

theorem startsWithValue_power (g : Phrase .power) (h : g.Admissible scope env) :
    StartsWithValue g.texts := by
  cases g with
  | base p => exact startsWithValue_primary p h
  | raised p f => exact (startsWithValue_primary p h.1).append ("^" :: f.texts)

/-- The multiplication signs that are put in are exactly those of the grammar's products. -/
theorem withProducts_texts (t : Phrase l) (h : t.Admissible scope env) :
    withProducts t.texts = t.words := by
  induction t with
  | literal n => rfl
  | name s => rfl
  | group e ih =>
    have hopen := withProducts_endsValue_false [] (e.texts ++ [")"]) (by decide : endsValue "(" = false)
    have hclose := withProducts_startsValue_false e.texts [] (by decide : startsValue ")" = false)
    simp only [texts, words]
    rw [← List.nil_append ("(" :: _), hopen, hclose, ih h]
    rfl
  | base p ih | unsigned p ih | factor p ih | term p ih => exact ih h
  | minus f ih =>
    have hsign := withProducts_sign [] f.texts (by decide : endsValue "-" = false) (by decide)
    exact hsign.trans (congrArg ("-" :: ·) (ih h))
  | raised p f ihp ihf =>
    simp only [texts, words]
    rw [withProducts_sign _ _ (by decide) (by decide), ihp h.1, ihf h.2.1]
  | beside p g ihp ihg =>
    simp only [texts, words]
    rw [withProducts_values (p.endsInValue_texts h.1) (g.startsWithValue_power h.2), ihp h.1, ihg h.2]
  | times p q ihp ihq | plus p q ihp ihq | less p q ihp ihq =>
    simp only [texts, words]
    rw [withProducts_sign _ _ (by decide) (by decide), ihp h.1, ihq h.2]

/-- The source of a formula whose texts are a phrase. -/
theorem toSource_eq {s : List Token} (t : Phrase l) (h : t.Admissible scope env)
    (hs : s.map Token.display = t.texts) : (toSource s).toList = spaced t.words := by
  rw [toSource, sourceOfTexts, hs, withProducts_texts t h, spaced]

end Phrase

end Formulary.Formula

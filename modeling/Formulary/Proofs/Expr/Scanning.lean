import Formulary.Expr.Lexeme
import Formulary.Proofs.Text.Plain

/-!
# Scanning a word

One step of scanning takes an identifier, a canonical numeral or a sign that ends before a space or at the end
of the line, and leaves what stands behind it.
-/

namespace Formulary.Expr

open Formulary.Text

variable {st st' : ScanState} {c sep : Char} {rest : List Char}

/-- The characters that signs and parentheses start with. -/
def signs : List Char := ['+', '-', '*', '(', ')']

/-- A character that a word can have. -/
def IsShown (c : Char) : Prop := isPlainChar c = true ∨ c ∈ signs
deriving Decidable

theorem IsShown.ne {d : Char} (h : IsShown c) (hd : ¬ IsShown d) : c ≠ d := by
  rintro rfl
  exact hd h

theorem IsShown.isQuote_eq_false (h : IsShown c) : isQuote c = false := by
  have hsingle : c ≠ '\'' := h.ne (by decide)
  have hdouble : c ≠ '"' := h.ne (by decide)
  simp [isQuote, hsingle, hdouble]

theorem IsShown.isBlank_eq_false (h : IsShown c) : isBlank c = false := by
  have hsigns : signs.any isBlank = false := by decide
  rcases h with h | h
  · exact isBlank_of_isPlainChar h
  · exact Bool.eq_false_iff.mpr (List.any_eq_false.mp hsigns c h)

/-- A character is none of those that scanning takes for itself. -/
structure IsOrdinary (c : Char) : Prop where
  space : c ≠ ' '
  tab : c ≠ '\t'
  page : c ≠ Char.ofNat 12
  comment : c ≠ '#'
  feed : c ≠ '\n'
  joint : c ≠ '\\'

theorem IsShown.isOrdinary (h : IsShown c) : IsOrdinary c := by
  constructor <;> exact h.ne (by decide)

/-- A word ends before a space and at the end of the line. -/
def EndsWord (sep : Char) : Prop := sep = ' ' ∨ sep = '\n'

theorem EndsWord.mayContinueName_eq_false (h : EndsWord sep) : mayContinueName sep = false := by
  rcases h with rfl | rfl <;> decide

/-- No quoted text starts at a word without quotes. -/
theorem textMark?_eq_none {word : List Char} (hne : word ≠ [])
    (hword : ∀ d ∈ word, isQuote d = false) (hsep : EndsWord sep) (rest : List Char) :
    textMark? (word ++ sep :: rest) = none := by
  have hletters : textMarks.all (·.all Char.isAlpha) = true := by decide
  obtain ⟨hlower, hquote⟩ : sep.toLower.isAlpha = false ∧ isQuote sep = false := by
    rcases hsep with rfl | rfl <;> decide
  have hnone : textMarks.findSome? (fun mark =>
      if ((word ++ sep :: rest).take mark.length).map Char.toLower = mark ∧
          ((word ++ sep :: rest).drop mark.length).head?.any isQuote then
        some ((word ++ sep :: rest).take mark.length)
      else none) = none := by
    refine List.findSome?_eq_none_iff.mpr fun mark hmark => if_neg ?_
    rintro ⟨htake, hdrop⟩
    by_cases hlen : mark.length ≤ word.length
    · -- a quote behind the mark would stand in the word or right behind it
      rw [List.drop_append_of_le_length hlen] at hdrop
      cases hd : word.drop mark.length with
      | nil => simp [hd, hquote] at hdrop
      | cons d ds =>
        have hmem : d ∈ word := List.mem_of_mem_drop (hd ▸ List.mem_cons_self)
        simp [hd, hword d hmem] at hdrop
    · -- the mark would reach over the end of the word
      have hmem : sep ∈ (word ++ sep :: rest).take mark.length := by
        obtain ⟨k, hk⟩ : ∃ k, mark.length - word.length = k + 1 :=
          ⟨mark.length - word.length - 1, by omega⟩
        rw [List.take_append, hk, List.take_succ_cons]
        exact List.mem_append_right _ List.mem_cons_self
      have hlow : sep.toLower ∈ mark := htake ▸ List.mem_map_of_mem hmem
      have halpha := List.all_eq_true.mp (List.all_eq_true.mp hletters mark hmark) _ hlow
      exact Bool.noConfusion (hlower.symm.trans halpha)
  obtain ⟨c, cs, rfl⟩ := List.exists_cons_of_ne_nil hne
  have hc : isQuote c = false := hword c List.mem_cons_self
  rw [List.cons_append] at hnone ⊢
  simp only [textMark?, hc, Bool.false_eq_true, if_false]
  exact hnone

/-! ## Names -/

/-- A character that scanning takes for itself is in no name. -/
theorem ne_of_mayContinueName {d : Char} (h : mayContinueName c = true)
    (hd : mayContinueName d = false) : c ≠ d := by
  rintro rfl
  exact Bool.noConfusion (h.symm.trans hd)

theorem isOrdinary_of_mayContinueName (h : mayContinueName c = true) : IsOrdinary c := by
  constructor <;> exact ne_of_mayContinueName h (by decide)

theorem isQuote_of_mayContinueName (h : mayContinueName c = true) : isQuote c = false := by
  have hsingle : c ≠ '\'' := ne_of_mayContinueName h (by decide)
  have hdouble : c ≠ '"' := ne_of_mayContinueName h (by decide)
  simp [isQuote, hsingle, hdouble]

theorem mayStartName_of_isIdentifierStart (h : isIdentifierStart c = true) :
    mayStartName c = true := by
  unfold isIdentifierStart at h
  split at h
  · rw [mayStartName, h]
    rfl
  · rename_i hlarge
    simp [mayStartName, Nat.le_of_not_lt hlarge]

theorem mayContinueName_of_isIdentifierPart (h : isIdentifierPart c = true) :
    mayContinueName c = true := by
  unfold isIdentifierPart at h
  split at h
  · rw [mayContinueName, h]
    rfl
  · rename_i hlarge
    simp [mayContinueName, Nat.le_of_not_lt hlarge]

theorem mayContinueName_of_mayStartName (h : mayStartName c = true) : mayContinueName c = true := by
  simp only [mayStartName, mayContinueName, Char.isAlphanum, Bool.or_eq_true] at h ⊢
  rcases h with (h | h) | h <;> simp [h]

theorem mayContinueName_of_isIdentifier {word : List Char} (h : isIdentifier word = true) :
    ∀ d ∈ word, mayContinueName d = true := by
  obtain ⟨c, cs, rfl, hstart, hparts⟩ := isIdentifier_iff.mp h
  intro d hd
  rcases List.mem_cons.mp hd with rfl | hd
  · exact mayContinueName_of_mayStartName (mayStartName_of_isIdentifierStart hstart)
  · exact mayContinueName_of_isIdentifierPart (hparts d hd)

theorem scan_identifier {word : List Char} (h : isIdentifier word = true) (hsep : EndsWord sep)
    (fuel : Nat) (blank : Bool) (rest : List Char) :
    scan (fuel + 1) st blank (word ++ sep :: rest) =
      (scan fuel st false (sep :: rest)).cons ⟨.name word, st.line, st.depth⟩ := by
  have hlength := identifierLength_of_isIdentifier h
  have hword := mayContinueName_of_isIdentifier h
  obtain ⟨c, cs, rfl, hfirst, -⟩ := isIdentifier_iff.mp h
  have hmark := textMark?_eq_none (List.cons_ne_nil c cs)
    (fun d hd => isQuote_of_mayContinueName (hword d hd)) hsep rest
  have hord := isOrdinary_of_mayContinueName (hword c List.mem_cons_self)
  have hstart := mayStartName_of_isIdentifierStart hfirst
  have hcs : ∀ d ∈ cs, mayContinueName d = true := fun d hd => hword d (List.mem_cons_of_mem c hd)
  have hstop : ¬ mayContinueName sep = true := by simp [hsep.mayContinueName_eq_false]
  have htake : (cs ++ sep :: rest).takeWhile mayContinueName = cs := by
    rw [List.takeWhile_append_of_pos hcs, List.takeWhile_cons_of_neg hstop, List.append_nil]
  have hdrop : (cs ++ sep :: rest).dropWhile mayContinueName = sep :: rest := by
    rw [List.dropWhile_append_of_pos hcs, List.dropWhile_cons_of_neg hstop]
  rw [List.cons_append] at hmark ⊢
  simp only [scan, hord.space, hord.tab, hord.page, hord.comment, hord.feed, hord.joint, hmark,
    hstart, htake, hdrop, hlength, List.drop_length, or_self, if_false, if_true]

/-! ## Numerals -/

theorem digitGroups?_digits {ds : List Char} (hds : ∀ d ∈ ds, d.isDigit = true)
    (hsep : EndsWord sep) (rest : List Char) :
    digitGroups? Char.isDigit (ds ++ sep :: rest) = some (ds, sep :: rest) := by
  induction ds with
  | nil => rcases hsep with rfl | rfl <;> rfl
  | cons c cs ih =>
    have hc : c.isDigit = true := hds c List.mem_cons_self
    have hne : c ≠ '_' := by
      rintro rfl
      exact Bool.noConfusion hc
    rw [List.cons_append, digitGroups?]
    · simp [hc, ih fun d hd => hds d (List.mem_cons_of_mem c hd)]
    · exact fun h _ => hne h
    · exact fun _ _ h _ => hne h

theorem takeExponent_endsWord (hsep : EndsWord sep) (ds rest : List Char) :
    takeExponent ds (sep :: rest) = .ok (ds, sep :: rest) := by
  have hends : endsNumeral (sep :: rest) = true := by
    simp [endsNumeral, hsep.mayContinueName_eq_false]
  rcases hsep with rfl | rfl <;> simp [takeExponent, takeImaginary, closeNumeral, hends]

theorem takeDecimal_canonical (n : Nat) (hsep : EndsWord sep) (rest : List Char) :
    takeDecimal (Nat.toDigits 10 n ++ sep :: rest) = .ok (Nat.toDigits 10 n, sep :: rest) := by
  have hpoint : sep ≠ '.' := by rcases hsep with rfl | rfl <;> decide
  unfold takeDecimal
  rw [digitGroups?_digits (fun d hd => isDigit_of_mem_numeral hd) hsep rest]
  simp only
  split
  · rename_i hzeros
    obtain rfl := eq_zero_of_head?_numeral hzeros.1
    simp at hzeros
  · exact takeExponent_endsWord hsep _ _

theorem takeNumeral_canonical (n : Nat) (hsep : EndsWord sep) (rest : List Char) :
    takeNumeral (Nat.toDigits 10 n ++ sep :: rest) = .ok (Nat.toDigits 10 n, sep :: rest) := by
  have hdec := takeDecimal_canonical n hsep rest
  unfold takeNumeral
  split
  · -- the mark of another base would have to stand behind a single zero
    rename_i b more heq
    have hhead : (Nat.toDigits 10 n).head? = some '0' := by
      have h := congrArg List.head? heq
      rwa [List.head?_append, List.head?_eq_some_head Nat.toDigits_ne_nil, Option.some_or,
        ← List.head?_eq_some_head Nat.toDigits_ne_nil] at h
    obtain rfl := eq_zero_of_head?_numeral hhead
    obtain ⟨rfl, rfl⟩ : sep = b ∧ rest = more := by simpa using heq
    rw [heq] at hdec
    rcases hsep with rfl | rfl <;> simpa using hdec
  · exact hdec

theorem scan_numeral (n : Nat) (hsep : EndsWord sep) (fuel : Nat) (blank : Bool)
    (rest : List Char) :
    scan (fuel + 1) st blank (Nat.toDigits 10 n ++ sep :: rest) =
      (scan fuel st false (sep :: rest)).cons ⟨.numeral (Nat.toDigits 10 n), st.line, st.depth⟩ := by
  have hnum := takeNumeral_canonical n hsep rest
  have hdigits : ∀ d ∈ Nat.toDigits 10 n, d.isDigit = true := fun d hd => isDigit_of_mem_numeral hd
  have hplain : ∀ d ∈ Nat.toDigits 10 n, IsShown d :=
    fun d hd => Or.inl (isPlainChar_of_mem_numeral hd)
  have hmark := textMark?_eq_none Nat.toDigits_ne_nil (fun d hd => (hplain d hd).isQuote_eq_false) hsep
    rest
  obtain ⟨c, cs, hcs⟩ := List.exists_cons_of_ne_nil (Nat.toDigits_ne_nil (n := n) (b := 10))
  rw [hcs] at hnum hdigits hplain hmark ⊢
  have hc : c.isDigit = true := hdigits c List.mem_cons_self
  have hord := (hplain c List.mem_cons_self).isOrdinary
  have hpoint : c ≠ '.' := (hplain c List.mem_cons_self).ne (by decide)
  have hunder : c ≠ '_' := by
    rintro rfl
    exact Bool.noConfusion hc
  have hstart : mayStartName c = false := by
    have hlt : c.toNat < 128 := toNat_lt_of_isPlainChar (isPlainChar_of_isDigit hc)
    simp [mayStartName, isAlpha_eq_false_of_isDigit hc, hunder, hlt]
  rw [List.cons_append] at hmark hnum ⊢
  simp only [scan, hord.space, hord.tab, hord.page, hord.comment, hord.feed, hord.joint, hmark,
    hstart, hc, hpoint, hnum, true_or, or_self, if_false, if_true, Bool.false_eq_true]

/-! ## Signs -/

theorem takeSymbol_endsWord (c : Char) (hsep : EndsWord sep) (rest : List Char) :
    takeSymbol c (sep :: rest) = (String.singleton c, sep :: rest) := by
  have hlong : ∀ s ∈ longSymbols, ' ' ∉ s.toList ∧ '\n' ∉ s.toList := by decide
  have hpair : ∀ s ∈ pairSymbols, ' ' ∉ s.toList ∧ '\n' ∉ s.toList := by decide
  have hthree : ¬ longSymbols.contains (String.ofList (c :: (sep :: rest).take 2)) = true := by
    rw [List.contains_iff_mem]
    intro hmem
    have := hlong _ hmem
    rcases hsep with rfl | rfl <;> simp at this
  have htwo : ¬ pairSymbols.contains (String.ofList (c :: (sep :: rest).take 1)) = true := by
    rw [List.contains_iff_mem]
    intro hmem
    have := hpair _ hmem
    rcases hsep with rfl | rfl <;> simp at this
  rw [takeSymbol, if_neg hthree, if_neg htwo]

theorem takeSymbol_power (hsep : EndsWord sep) (rest : List Char) :
    takeSymbol '*' (['*'] ++ sep :: rest) = ("**", sep :: rest) := by
  rcases hsep with rfl | rfl <;> rfl

theorem scan_symbol {more : List Char} {sym : String} (hc : c ∈ signs)
    (hmore : ∀ d ∈ more, IsShown d) (hnext : st.bracket c = .ok st') (hsep : EndsWord sep)
    (htake : takeSymbol c (more ++ sep :: rest) = (sym, sep :: rest)) (fuel : Nat) (blank : Bool) :
    scan (fuel + 1) st blank (c :: more ++ sep :: rest) =
      (scan fuel st' false (sep :: rest)).cons ⟨.symbol sym, st.line, st'.depth⟩ := by
  obtain ⟨hstart, hdigit, hpoint, hprint⟩ : mayStartName c = false ∧ c.isDigit = false ∧ c ≠ '.' ∧
      Text.isPrintable c = true := by
    simp only [signs, List.mem_cons, List.not_mem_nil, or_false] at hc
    rcases hc with rfl | rfl | rfl | rfl | rfl <;> decide
  have hord := IsShown.isOrdinary (Or.inr hc)
  have hshown : ∀ d ∈ c :: more, IsShown d := List.forall_mem_cons.mpr ⟨Or.inr hc, hmore⟩
  have hmark := textMark?_eq_none (List.cons_ne_nil c more)
    (fun d hd => (hshown d hd).isQuote_eq_false) hsep rest
  rw [List.cons_append] at hmark ⊢
  simp only [scan, hord.space, hord.tab, hord.page, hord.comment, hord.feed, hord.joint, hmark,
    hstart, hdigit, hpoint, hnext, htake, hprint, false_and, or_self, if_false, if_true,
    Bool.false_eq_true]

end Formulary.Expr

import Formulary.Proofs.Expr.Scanning

/-!
# Lexing a line

Words with single spaces between are lexed to one lexeme each. Only parentheses change the state on the
way.
-/

namespace Formulary.Expr

open Formulary.Text

/-- Behind an opening parenthesis. -/
def ScanState.enter (st : ScanState) : ScanState :=
  { st with opened := ⟨'(', st.line⟩ :: st.opened }

/-- Words with single spaces between, their lexemes, and the states before and behind them. -/
inductive Spells : ScanState → List Char → List Located → ScanState → Prop where
  | numeral (st : ScanState) (n : Nat) :
    Spells st (Nat.toDigits 10 n) [⟨.numeral (Nat.toDigits 10 n), st.line, st.depth⟩] st
  | name (st : ScanState) {word : List Char} (h : isPlainName word = true) :
    Spells st word [⟨.name word, st.line, st.depth⟩] st
  | sign (st : ScanState) {c : Char} (h : c ∈ ['+', '-', '*']) :
    Spells st [c] [⟨.symbol (String.singleton c), st.line, st.depth⟩] st
  | power (st : ScanState) : Spells st ['*', '*'] [⟨.symbol "**", st.line, st.depth⟩] st
  | opening (st : ScanState) (h : st.depth < maxDepth) :
    Spells st ['('] [⟨.symbol "(", st.line, st.depth + 1⟩] st.enter
  | closing (st : ScanState) : Spells st.enter [')'] [⟨.symbol ")", st.line, st.depth⟩] st
  | join {st st' st'' : ScanState} {cs cs' : List Char} {ls ls' : List Located}
    (h : Spells st cs ls st') (h' : Spells st' cs' ls' st'') :
    Spells st (cs ++ ' ' :: cs') (ls ++ ls') st''

/-- A line starts and ends within a word, and between words are spaces. -/
structure IsLine (cs : List Char) : Prop where
  first : ∃ c rest, cs = c :: rest ∧ IsShown c
  last : ∃ init c, cs = init ++ [c] ∧ IsShown c
  inner : ∀ c ∈ cs, c = ' ' ∨ IsShown c

theorem isLine_word {cs : List Char} (hne : cs ≠ []) (h : ∀ c ∈ cs, IsShown c) : IsLine cs where
  first := ⟨cs.head hne, cs.tail, (List.cons_head_tail hne).symm, h _ (List.head_mem hne)⟩
  last := ⟨cs.dropLast, cs.getLast hne, (List.dropLast_concat_getLast hne).symm,
    h _ (List.getLast_mem hne)⟩
  inner c hc := Or.inr (h c hc)

theorem IsLine.join {cs cs' : List Char} (h : IsLine cs) (h' : IsLine cs') :
    IsLine (cs ++ ' ' :: cs') where
  first := by
    obtain ⟨c, rest, rfl, hc⟩ := h.first
    exact ⟨c, rest ++ ' ' :: cs', rfl, hc⟩
  last := by
    obtain ⟨init, c, rfl, hc⟩ := h'.last
    exact ⟨cs ++ ' ' :: init, c, by simp, hc⟩
  inner := by
    intro c hc
    rcases List.mem_append.mp hc with hc | hc
    · exact h.inner c hc
    · rcases List.mem_cons.mp hc with rfl | hc
      · exact Or.inl rfl
      · exact h'.inner c hc

theorem IsLine.trimChars {cs : List Char} (h : IsLine cs) : trimChars cs = cs := by
  obtain ⟨c, rest, hcs, hc⟩ := h.first
  obtain ⟨init, d, hcs', hd⟩ := h.last
  rw [Text.trimChars, hcs, dropWhile_blank_of_head hc.isBlank_eq_false, ← hcs, hcs',
    dropBlankEnd_append_of_not_blank init hd.isBlank_eq_false]

/-- A character that is no space and in no word is not in a line. -/
theorem IsLine.ne {cs : List Char} (h : IsLine cs) {c d : Char} (hc : c ∈ cs)
    (hd : ¬ (d = ' ' ∨ IsShown d)) : c ≠ d := by
  rintro rfl
  exact hd (h.inner c hc)

theorem withLineEnds_eq {cs : List Char} (h : ∀ c ∈ cs, c ≠ '\r' ∧ c ≠ '\n') :
    withLineEnds cs = cs ++ ['\n'] := by
  induction cs with
  | nil => rfl
  | cons c cs ih =>
    obtain ⟨hreturn, hfeed⟩ := h c List.mem_cons_self
    have ih := ih fun d hd => h d (List.mem_cons_of_mem c hd)
    rw [withLineEnds]
    · simp [hreturn, hfeed, ih]
    · exact fun _ hc _ => hreturn hc

theorem foldr_cons (ls : List Located) (r : Lexed) :
    ls.foldr Lexed.cons r = ⟨ls ++ r.lexemes, r.fault⟩ := by
  induction ls with
  | nil => rfl
  | cons l ls ih => simp only [List.foldr_cons, ih, Lexed.cons, List.cons_append]

theorem scanLine_ordinary {c : Char} (hord : IsOrdinary c) (fuel : Nat) (rest : List Char) :
    scanLine (fuel + 1) {} (c :: rest) = scan fuel {} false (c :: rest) := by
  have hindent : indentation 0 (c :: rest) = (0, c :: rest) := by
    rw [indentation]
    · rw [if_neg hord.page]
    · exact hord.space
    · exact hord.tab
  have hblank : isBlankLine (c :: rest) = false := by
    unfold isBlankLine
    split
    · rename_i heq
      exact absurd (List.cons.inj heq).1 hord.feed
    · rename_i heq
      exact absurd (List.cons.inj heq).1 hord.comment
    · rfl
  simp only [scanLine, hindent, hblank]
  rfl

theorem scan_feed (fuel : Nat) :
    scan (fuel + 4) {} false ['\n'] = ⟨[⟨.newline, 1, 0⟩, ⟨.finish, 2, 0⟩], none⟩ := rfl

/-- What is scanned to some lexemes up to the end of the line is lexed to them, the end of the line and
the end of the text. -/
theorem lex_of_scan {c : Char} {rest : List Char} {ls : List Located} (hc : IsOrdinary c)
    (hfeeds : ∀ d ∈ c :: rest, d ≠ '\r' ∧ d ≠ '\n') (hlength : ls.length ≤ (c :: rest).length)
    (h : ∀ fuel, scan (fuel + 2 * ls.length) {} false (c :: rest ++ ['\n']) =
      ls.foldr Lexed.cons (scan (fuel + 1) {} false ['\n'])) :
    lex (c :: rest) = ⟨ls ++ [⟨.newline, 1, 0⟩, ⟨.finish, 2, 0⟩], none⟩ := by
  obtain ⟨fuel, hfuel⟩ : ∃ fuel,
      2 * (c :: rest ++ ['\n']).length + 2 = fuel + 3 + 2 * ls.length + 1 := by
    refine ⟨2 * (c :: rest).length - 2 * ls.length, ?_⟩
    rw [List.length_append, List.length_singleton]
    omega
  have hfirst : scanLine (fuel + 3 + 2 * ls.length + 1) {} (c :: rest ++ ['\n']) =
      scan (fuel + 3 + 2 * ls.length) {} false (c :: rest ++ ['\n']) := scanLine_ordinary hc _ _
  rw [lex, List.isEmpty_cons, if_neg Bool.false_ne_true]
  simp only [withLineEnds_eq hfeeds, hfuel, hfirst]
  rw [h, scan_feed, foldr_cons]

theorem lex_identifier {word : List Char} (h : isIdentifier word = true) :
    lex word = ⟨[⟨.name word, 1, 0⟩, ⟨.newline, 1, 0⟩, ⟨.finish, 2, 0⟩], none⟩ := by
  have hword := mayContinueName_of_isIdentifier h
  have hscan : ∀ fuel, scan (fuel + 2) {} false (word ++ ['\n']) =
      (scan (fuel + 1) {} false ['\n']).cons ⟨.name word, 1, 0⟩ :=
    fun fuel => scan_identifier h (Or.inr rfl) (fuel + 1) false []
  obtain ⟨c, rest, rfl, -, -⟩ := isIdentifier_iff.mp h
  have hfeeds : ∀ d ∈ c :: rest, d ≠ '\r' ∧ d ≠ '\n' := fun d hd =>
    ⟨ne_of_mayContinueName (hword d hd) (by decide), ne_of_mayContinueName (hword d hd) (by decide)⟩
  change _ = (⟨[⟨.name (c :: rest), 1, 0⟩] ++ _, none⟩ : Lexed)
  exact lex_of_scan (isOrdinary_of_mayContinueName (hword c List.mem_cons_self)) hfeeds
    (Nat.succ_le_succ (Nat.zero_le _)) hscan

namespace Spells

variable {st st' : ScanState} {cs : List Char} {ls : List Located}

/-- Scanning takes two steps a word, for the word and for what stands behind it. -/
theorem scan_eq (h : Spells st cs ls st') {sep : Char} (hsep : EndsWord sep) (fuel : Nat)
    (blank : Bool) (rest : List Char) :
    scan (fuel + 2 * ls.length) st blank (cs ++ sep :: rest) =
      ls.foldr Lexed.cons (scan (fuel + 1) st' false (sep :: rest)) := by
  induction h generalizing fuel blank sep rest with
  | numeral st n => exact scan_numeral n hsep (fuel + 1) blank rest
  | name st hword =>
    exact scan_identifier (isIdentifier_of_isPlainName hword) hsep (fuel + 1) blank rest
  | @sign st c hc =>
    have hmem : c ∈ signs := List.mem_append_left ['(', ')'] hc
    have hnext : st.bracket c = .ok st := by
      simp only [List.mem_cons, List.not_mem_nil, or_false] at hc
      rcases hc with rfl | rfl | rfl <;> rfl
    exact scan_symbol hmem (List.forall_mem_nil _) hnext hsep (takeSymbol_endsWord c hsep rest)
      (fuel + 1) blank
  | power st =>
    have hmore : ∀ d ∈ ['*'], IsShown d := List.forall_mem_singleton.mpr (by decide)
    exact scan_symbol (by decide) hmore rfl hsep (takeSymbol_power hsep rest) (fuel + 1) blank
  | opening st hdepth =>
    have hnext : st.bracket '(' = .ok st.enter := by
      simp [ScanState.bracket, ScanState.enter, Nat.not_le.mpr hdepth]
    exact scan_symbol (by decide) (List.forall_mem_nil _) hnext hsep (takeSymbol_endsWord _ hsep rest)
      (fuel + 1) blank
  | closing st =>
    exact scan_symbol (by decide) (List.forall_mem_nil _) rfl hsep (takeSymbol_endsWord _ hsep rest)
      (fuel + 1) blank
  | @join st st' st'' cs cs' ls ls' _ _ ih ih' =>
    have hfuel : fuel + 2 * (ls ++ ls').length = fuel + 2 * ls'.length + 2 * ls.length := by
      rw [List.length_append]
      omega
    have hspace : scan (fuel + 2 * ls'.length + 1) st' false (' ' :: (cs' ++ sep :: rest)) =
        scan (fuel + 2 * ls'.length) st' false (cs' ++ sep :: rest) := by
      simp only [scan, true_or, if_true]
    rw [hfuel, List.append_assoc, List.cons_append, ih (Or.inl rfl), hspace, ih' hsep,
      List.foldr_append]

theorem length_le (h : Spells st cs ls st') : ls.length ≤ cs.length := by
  induction h with
  | numeral st n => exact Nat.length_toDigits_pos
  | name st hword =>
    obtain ⟨c, rest, rfl, -, -⟩ := isPlainName_iff.mp hword
    simp
  | sign st hc => exact Nat.le_refl 1
  | power st => exact Nat.le_succ 1
  | opening st hdepth => exact Nat.le_refl 1
  | closing st => exact Nat.le_refl 1
  | join _ _ ih ih' =>
    simp only [List.length_append, List.length_cons]
    omega

theorem isLine (h : Spells st cs ls st') : IsLine cs := by
  have hsign : ∀ c ∈ signs, IsLine [c] := fun c hc =>
    isLine_word (List.cons_ne_nil c []) fun d hd => Or.inr (List.mem_singleton.mp hd ▸ hc)
  induction h with
  | numeral st n =>
    exact isLine_word Nat.toDigits_ne_nil fun c hc => Or.inl (isPlainChar_of_mem_numeral hc)
  | name st hword =>
    obtain ⟨c, rest, rfl, -, hplain⟩ := isPlainName_iff.mp hword
    exact isLine_word (List.cons_ne_nil c rest) fun d hd => Or.inl (hplain d hd)
  | sign st hc => exact hsign _ (List.mem_append_left ['(', ')'] hc)
  | power st =>
    exact isLine_word (List.cons_ne_nil '*' ['*']) (by simp [IsShown, signs])
  | opening st hdepth => exact hsign _ (by decide)
  | closing st => exact hsign _ (by decide)
  | join _ _ ih ih' => exact ih.join ih'

/-- A line is lexed to its lexemes, the end of the line and the end of the text. -/
theorem lex_eq (h : Spells {} cs ls {}) :
    lex cs = ⟨ls ++ [⟨.newline, 1, 0⟩, ⟨.finish, 2, 0⟩], none⟩ := by
  have hline := h.isLine
  have hlength := h.length_le
  have hfeeds : ∀ c ∈ cs, c ≠ '\r' ∧ c ≠ '\n' := fun c hc =>
    ⟨hline.ne hc (by decide), hline.ne hc (by decide)⟩
  have hscan := fun fuel => h.scan_eq (Or.inr rfl) fuel false []
  obtain ⟨c, rest, rfl, hc⟩ := hline.first
  exact lex_of_scan hc.isOrdinary hfeeds hlength hscan

end Spells

end Formulary.Expr

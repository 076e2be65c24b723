import Formulary.Proofs.Text.Plain
import Mathlib.Data.List.TakeDrop

/-!
# Trimmed parts

Blanks put around a text are trimmed away with those it has. So a text may be trimmed before it is cut
at a character that is no blank, as long as the parts are trimmed in the end.
-/

namespace Formulary.Text

variable {c : Char} {cs blanks : List Char}

theorem trim_ofList (cs : List Char) : trim (String.ofList cs) = String.ofList (trimChars cs) := by
  rw [trim, String.toList_ofList]

/-! ## Blanks around a text -/

theorem dropBlankEnd_append (cs : List Char) (h : ∀ c ∈ blanks, isBlank c = true) :
    dropBlankEnd (cs ++ blanks) = dropBlankEnd cs := by
  have hreverse : ∀ c ∈ blanks.reverse, isBlank c = true := fun c hc => h c (List.mem_reverse.mp hc)
  rw [dropBlankEnd, List.reverse_append, List.dropWhile_append_of_pos hreverse, dropBlankEnd]

theorem exists_dropBlankEnd_append (cs : List Char) :
    ∃ blanks, (∀ c ∈ blanks, isBlank c = true) ∧ cs = dropBlankEnd cs ++ blanks := by
  refine ⟨(cs.reverse.takeWhile isBlank).reverse, ?_, ?_⟩
  · intro c hc
    exact List.mem_takeWhile_imp (List.mem_reverse.mp hc)
  · rw [dropBlankEnd, ← List.reverse_append, List.takeWhile_append_dropWhile, List.reverse_reverse]

theorem trimChars_append_left (h : ∀ c ∈ blanks, isBlank c = true) (cs : List Char) :
    trimChars (blanks ++ cs) = trimChars cs := by
  rw [trimChars, List.dropWhile_append_of_pos h, trimChars]

theorem trimChars_append_right (cs : List Char) (h : ∀ c ∈ blanks, isBlank c = true) :
    trimChars (cs ++ blanks) = trimChars cs := by
  rw [trimChars, List.dropWhile_append, trimChars]
  split
  · rename_i hempty
    rw [List.dropWhile_eq_nil_iff.mpr h, List.isEmpty_iff.mp hempty]
  · exact dropBlankEnd_append _ h

theorem trimChars_of_not_blank (h : ∀ c ∈ cs, isBlank c = false) : trimChars cs = cs := by
  have hdrop : ∀ {ds : List Char}, (∀ c ∈ ds, isBlank c = false) → ds.dropWhile isBlank = ds := by
    intro ds hds
    cases ds with
    | nil => rfl
    | cons d ds => exact dropWhile_blank_of_head (hds d List.mem_cons_self)
  rw [trimChars, hdrop h, dropBlankEnd, hdrop fun c hc => h c (List.mem_reverse.mp hc),
    List.reverse_reverse]

theorem trimChars_padded {before after : List Char} (hbefore : ∀ c ∈ before, isBlank c = true)
    (hcs : ∀ c ∈ cs, isBlank c = false) (hafter : ∀ c ∈ after, isBlank c = true) :
    trimChars (before ++ cs ++ after) = cs := by
  rw [trimChars_append_right _ hafter, trimChars_append_left hbefore, trimChars_of_not_blank hcs]

/-- A text is what is left of it with blanks around. -/
theorem exists_trimChars_append (cs : List Char) : ∃ before after,
    (∀ c ∈ before, isBlank c = true) ∧ (∀ c ∈ after, isBlank c = true) ∧
      cs = before ++ trimChars cs ++ after := by
  obtain ⟨after, hafter, hsplit⟩ := exists_dropBlankEnd_append (cs.dropWhile isBlank)
  refine ⟨cs.takeWhile isBlank, after, fun c hc => List.mem_takeWhile_imp hc, hafter, ?_⟩
  rw [List.append_assoc, trimChars, ← hsplit, List.takeWhile_append_dropWhile]

/-! ## Cutting a text -/

variable {p : Char → Bool}

/-- The parts of a text between the characters that separate, each of them trimmed. -/
def trimmedParts (p : Char → Bool) (cs : List Char) : List (List Char) :=
  (cs.splitOnP p).map trimChars

theorem trimmedParts_of_none (h : ∀ c ∈ cs, p c = false) : trimmedParts p cs = [trimChars cs] := by
  rw [trimmedParts, List.splitOnP_eq_singleton h, List.map_singleton]

theorem trimmedParts_append_cons (hc : p c = true) (cs ds : List Char) :
    trimmedParts p (cs ++ c :: ds) = trimmedParts p cs ++ trimmedParts p ds := by
  rw [trimmedParts, List.splitOnP_append_cons cs ds hc, List.map_append, trimmedParts, trimmedParts]

/-- Blanks around a text are in its first and last parts, and are trimmed away there. -/
theorem trimmedParts_padded (hp : ∀ c, isBlank c = true → p c = false)
    (cs before after : List Char) (hbefore : ∀ c ∈ before, isBlank c = true)
    (hafter : ∀ c ∈ after, isBlank c = true) :
    trimmedParts p (before ++ cs ++ after) = trimmedParts p cs := by
  -- The induction is on the length, as a text is cut at any of the characters that separate. Of the
  -- two parts, one keeps the blanks before it and the other those behind it.
  induction hlength : cs.length using Nat.strong_induction_on generalizing cs before after with
  | _ n ih =>
    by_cases hcut : ∃ c ∈ cs, p c = true
    · obtain ⟨c, hmem, hc⟩ := hcut
      obtain ⟨xs, ys, rfl⟩ := List.append_of_mem hmem
      have hlength' : xs.length + (ys.length + 1) = n := by simpa using hlength
      have hxs := ih xs.length (by omega) xs before [] hbefore nofun rfl
      have hys := ih ys.length (by omega) ys [] after nofun hafter rfl
      rw [List.append_nil] at hxs
      rw [List.nil_append] at hys
      have hsplit : before ++ (xs ++ c :: ys) ++ after = (before ++ xs) ++ c :: (ys ++ after) := by
        simp
      rw [hsplit, trimmedParts_append_cons hc, trimmedParts_append_cons hc, hxs, hys]
    · have hnone : ∀ c ∈ cs, p c = false := fun c hc => by simpa using fun h => hcut ⟨c, hc, h⟩
      have hall : ∀ c ∈ before ++ cs ++ after, p c = false := by
        intro c hc
        rcases List.mem_append.mp hc with hc | hc
        · rcases List.mem_append.mp hc with hc | hc
          · exact hp c (hbefore c hc)
          · exact hnone c hc
        · exact hp c (hafter c hc)
      rw [trimmedParts_of_none hnone, trimmedParts_of_none hall, trimChars_append_right _ hafter,
        trimChars_append_left hbefore]

/-- A text may be trimmed before it is cut. -/
theorem trimmedParts_trimChars (hp : ∀ c, isBlank c = true → p c = false) (cs : List Char) :
    trimmedParts p (trimChars cs) = trimmedParts p cs := by
  obtain ⟨before, after, hbefore, hafter, hsplit⟩ := exists_trimChars_append cs
  have hpadded := trimmedParts_padded hp (trimChars cs) before after hbefore hafter
  rw [← hsplit] at hpadded
  exact hpadded.symm

/-! ## Identifiers -/

/-- The blanks that are not in ASCII. -/
def wideBlanks : List Nat :=
  [0x85, 0xA0, 0x1680, 0x2000, 0x2001, 0x2002, 0x2003, 0x2004, 0x2005, 0x2006, 0x2007, 0x2008, 0x2009,
    0x200A, 0x2028, 0x2029, 0x202F, 0x205F, 0x3000]

theorem mem_wideBlanks (h : isBlank c = true) (hwide : 128 ≤ c.toNat) : c.toNat ∈ wideBlanks := by
  simp only [isBlank, Bool.or_eq_true, Bool.and_eq_true, decide_eq_true_eq, beq_iff_eq] at h
  simp only [wideBlanks, List.mem_cons, List.not_mem_nil, or_false]
  omega

theorem not_covered_wideBlanks : ∀ intervals ∈ [startIntervals, continueIntervals],
    ∀ n ∈ wideBlanks, covered intervals n = false := by
  decide +kernel

theorem isBlank_of_covered {intervals : List (Nat × Nat)}
    (hintervals : intervals ∈ [startIntervals, continueIntervals])
    (h : covered intervals c.toNat = true) (hwide : 128 ≤ c.toNat) : isBlank c = false := by
  by_contra hblank
  have hmem := mem_wideBlanks (by simpa using hblank) hwide
  rw [not_covered_wideBlanks _ hintervals _ hmem] at h
  cases h

theorem isPlainChar_of_isIdentifierStart (h : isIdentifierStart c = true) (hascii : c.toNat < 128) :
    isPlainChar c = true := by
  rw [isIdentifierStart, if_pos hascii] at h
  simp only [isPlainChar, Char.isAlphanum, Bool.or_eq_true] at h ⊢
  tauto

theorem isPlainChar_of_isIdentifierPart (h : isIdentifierPart c = true) (hascii : c.toNat < 128) :
    isPlainChar c = true := by
  rwa [isIdentifierPart, if_pos hascii] at h

theorem isBlank_of_isIdentifierStart (h : isIdentifierStart c = true) : isBlank c = false := by
  by_cases hascii : c.toNat < 128
  · exact isBlank_of_isPlainChar (isPlainChar_of_isIdentifierStart h hascii)
  · rw [isIdentifierStart, if_neg hascii] at h
    exact isBlank_of_covered List.mem_cons_self h (Nat.le_of_not_lt hascii)

theorem isBlank_of_isIdentifierPart (h : isIdentifierPart c = true) : isBlank c = false := by
  by_cases hascii : c.toNat < 128
  · exact isBlank_of_isPlainChar (isPlainChar_of_isIdentifierPart h hascii)
  · rw [isIdentifierPart, if_neg hascii] at h
    exact isBlank_of_covered (List.mem_cons_of_mem _ List.mem_cons_self) h (Nat.le_of_not_lt hascii)

/-- An identifier has no blank in it, and no character of ASCII that is not plain. -/
theorem of_mem_identifier (h : isIdentifier cs = true) (hc : c ∈ cs) :
    isBlank c = false ∧ (c.toNat < 128 → isPlainChar c = true) := by
  obtain ⟨d, ds, rfl, hstart, hparts⟩ := isIdentifier_iff.mp h
  rcases List.mem_cons.mp hc with rfl | hc
  · exact ⟨isBlank_of_isIdentifierStart hstart, isPlainChar_of_isIdentifierStart hstart⟩
  · exact ⟨isBlank_of_isIdentifierPart (hparts c hc), isPlainChar_of_isIdentifierPart (hparts c hc)⟩

end Formulary.Text

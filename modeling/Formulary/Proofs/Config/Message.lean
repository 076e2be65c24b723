import Formulary.Config
import Formulary.Terminal.Palette

/-!
# What is wrong with a setting

A text that is quoted is of one line, since a line feed is escaped and an escape has none. So what is
wrong with a setting is told in one line, in colour or not, whatever the text of the setting is.
-/

namespace Formulary

namespace Text

/-- The text is of one line. -/
def OneLine (s : String) : Prop := '\n' ∉ s.toList

instance (s : String) : Decidable (OneLine s) := inferInstanceAs (Decidable ('\n' ∉ s.toList))

theorem OneLine.append {s t : String} (hs : OneLine s) (ht : OneLine t) : OneLine (s ++ t) := by
  rw [OneLine, String.toList_append, List.mem_append]
  exact not_or.mpr ⟨hs, ht⟩

theorem newline_notMem_hexDigits (width n : Nat) : '\n' ∉ hexDigits width n := by
  have hdigit : ∀ d < 16, '\n' ≠ hexChar d := by decide
  induction width generalizing n with
  | zero => exact List.not_mem_nil
  | succ width ih =>
    rw [hexDigits, List.mem_append, List.mem_singleton]
    exact not_or.mpr ⟨ih _, hdigit _ (Nat.mod_lt n (by decide))⟩

theorem newline_notMem_codePointEscape (c : Char) : '\n' ∉ codePointEscape c := by
  unfold codePointEscape
  dsimp only
  split
  · simp [newline_notMem_hexDigits]
  · split <;> simp [newline_notMem_hexDigits]

theorem newline_notMem_quotedChar {quote : Char} (hquote : quote ≠ '\n') (c : Char) :
    '\n' ∉ quotedChar quote c := by
  unfold quotedChar
  split
  · rename_i hc
    have hne : c ≠ '\n' := by
      rcases hc with rfl | rfl
      · exact hquote
      · decide
    simp [hne.symm]
  · split
    · decide
    · rename_i hne
      split
      · decide
      · split
        · decide
        · split
          · simpa using Ne.symm hne
          · exact newline_notMem_codePointEscape c

theorem oneLine_quoted (s : String) : OneLine (quoted s) := by
  have hquote : quoteFor s.toList ≠ '\n' := by
    unfold quoteFor
    split <;> decide
  simp [OneLine, quoted, hquote.symm, newline_notMem_quotedChar hquote]

theorem oneLine_toString (n : Nat) : OneLine (toString n) := by
  rw [OneLine, Nat.toString_eq_repr, Nat.toList_repr]
  intro hmem
  have hdigit : '\n'.isDigit = true := Nat.isDigit_of_mem_toDigits (by decide) (by decide) hmem
  exact absurd hdigit (by decide)

end Text

theorem Palette.oneLine_paint {s : String} (h : Text.OneLine s) (p : Palette) (t : Tint) :
    Text.OneLine (p.paint [t] s) := by
  unfold paint
  split
  · have hcode : Text.OneLine (String.join ([t].map Tint.code)) := by cases t <;> decide
    exact (hcode.append h).append (by decide)
  · exact h

/-- What is wrong with a setting is told in one line, whatever its text is. -/
theorem SettingError.oneLine_message (e : SettingError) : Text.OneLine e.message := by
  have hquoted := Text.oneLine_quoted
  cases e with
  | timeout text => exact Text.OneLine.append (by decide) (hquoted text)
  | cacheSize e =>
    cases e with
    | malformed text =>
      refine Text.OneLine.append (by decide) fun hmem => ?_
      rw [String.toList_ofList] at hmem
      exact hquoted text (List.mem_of_mem_take hmem)
    | tooManyDigits count =>
      refine Text.OneLine.append ?_ (Text.OneLine.append (Text.oneLine_toString count) (by decide))
      decide +kernel
  | binding e =>
    cases e with
    | incomplete text => exact .append (.append (by decide) (hquoted text)) (by decide)
    | badName name => exact .append (by decide) (hquoted name)
    | badValue name value =>
      exact .append (.append (.append (by decide) (hquoted name)) (by decide)) (hquoted value)

end Formulary

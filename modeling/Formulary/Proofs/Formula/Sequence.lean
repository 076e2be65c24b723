import Formulary.Formula.Basic
import Mathlib.Data.List.InsertIdx

/-!
# Edits of a sequence

Within the bounds of a sequence, to insert and to remove is what lists do at an index. Beyond them a
token goes to the end, and nothing is removed. So an edit puts one token in or takes one out, the others
keep their order, and what was put in at an index can be taken out again at that index.
-/

namespace Formulary

/-- The index is one of the list. -/
def InRange {α : Type} (xs : List α) (i : Int) : Prop := 0 ≤ i ∧ i < xs.length

namespace Formula

variable {α β : Type} {s before after : List α} {j : Nat}

/-- The second sequence has one token more, and those of the first in their order. -/
def OneMore (s s' : List α) : Prop := ∃ a t b, s = a ++ b ∧ s' = a ++ t :: b

/-! ## To insert -/

theorem insert_of_le {i : Nat} (h : i ≤ s.length) (t : α) :
    insert s t (some i) = s.insertIdx i t := by
  have hin : (0 : Int) ≤ i ∧ (i : Int) ≤ s.length := by omega
  rw [insert, if_pos hin, Int.toNat_natCast]
  induction s generalizing i with
  | nil =>
    obtain rfl : i = 0 := by simpa using h
    rfl
  | cons a s ih =>
    cases i with
    | zero => rfl
    | succ i =>
      have hi : i ≤ s.length := Nat.le_of_succ_le_succ h
      rw [List.insertIdx_succ_cons, ← ih hi (by omega)]
      rfl

theorem insert_of_lt {i : Nat} (h : s.length < i) (t : α) : insert s t (some i) = s ++ [t] := by
  have hout : ¬ ((0 : Int) ≤ i ∧ (i : Int) ≤ s.length) := by omega
  rw [insert, if_neg hout]

theorem insert_length_append (s s' : List α) (t : α) :
    insert (s ++ s') t (some s.length) = s ++ t :: s' := by
  have hin : (0 : Int) ≤ s.length ∧ (s.length : Int) ≤ (s ++ s').length := by
    rw [List.length_append]
    omega
  rw [insert, if_pos hin, Int.toNat_natCast, List.take_left, List.drop_left]

/-- A place beyond the end is as good as none. -/
theorem insert_filter (s : List α) (t : α) (place : Option Nat) :
    insert s t ((place.filter (· ≤ s.length)).map Int.ofNat) =
      insert s t (place.map Int.ofNat) := by
  cases place with
  | none => rfl
  | some i =>
    by_cases h : i ≤ s.length
    · rw [Option.filter_some_pos (by simpa using h)]
    · rw [Option.filter_some_neg (by simpa using h)]
      exact (insert_of_lt (Nat.lt_of_not_le h) t).symm

theorem map_insert (f : α → β) (s : List α) (t : α) (i : Option Int) :
    (insert s t i).map f = insert (s.map f) (f t) i := by
  unfold insert
  rw [List.length_map]
  split
  · split <;> simp
  · simp

/-- Wherever it goes, a token is put between the others. -/
theorem exists_insert_eq (s : List α) (t : α) (i : Option Int) :
    ∃ a b, s = a ++ b ∧ insert s t i = a ++ t :: b := by
  have hend : ∃ a b, s = a ++ b ∧ s ++ [t] = a ++ t :: b := ⟨s, [], (List.append_nil s).symm, rfl⟩
  unfold insert
  split
  · split
    · exact ⟨_, _, (List.take_append_drop _ s).symm, rfl⟩
    · exact hend
  · exact hend

theorem oneMore_insert (s : List α) (t : α) (i : Option Int) : OneMore s (insert s t i) := by
  obtain ⟨a, b, hs, hinsert⟩ := exists_insert_eq s t i
  exact ⟨a, t, b, hs, hinsert⟩

/-- An index that is no place in the sequence is as good as none. -/
theorem insert_of_not_place {i : Int} (h : ¬ (0 ≤ i ∧ i ≤ s.length)) (t : α) :
    insert s t (some i) = insert s t none := if_neg h

/-! ## To remove -/

theorem removeAt_natCast (s : List α) (i : Nat) : removeAt s i = s.eraseIdx i := by
  by_cases h : i < s.length
  · have hin : (0 : Int) ≤ i ∧ (i : Int) < s.length := by omega
    rw [removeAt, if_pos hin, Int.toNat_natCast, List.eraseIdx_eq_take_drop_succ]
  · have hout : ¬ ((0 : Int) ≤ i ∧ (i : Int) < s.length) := by omega
    rw [removeAt, if_neg hout, List.eraseIdx_of_length_le (Nat.le_of_not_lt h)]

theorem removeAt_of_not_inRange {i : Int} (h : ¬ InRange s i) : removeAt s i = s := if_neg h

/-- Only the token at the index is taken out. -/
theorem exists_removeAt_eq {i : Int} (h : InRange s i) :
    ∃ t a b, s[i.toNat]? = some t ∧ s = a ++ t :: b ∧ removeAt s i = a ++ b := by
  obtain ⟨n, rfl⟩ := Int.eq_ofNat_of_zero_le h.1
  have hn : n < s.length := Int.ofNat_lt.mp h.2
  refine ⟨s[n], s.take n, s.drop (n + 1), ?_, ?_, ?_⟩
  · rw [Int.toNat_natCast, List.getElem?_eq_getElem hn]
  · rw [List.getElem_cons_drop, List.take_append_drop]
  · rw [removeAt_natCast, List.eraseIdx_eq_take_drop_succ]

theorem oneMore_removeAt {i : Int} (h : InRange s i) : OneMore (removeAt s i) s := by
  obtain ⟨t, a, b, -, hs, hremove⟩ := exists_removeAt_eq h
  exact ⟨a, t, b, hremove, hs⟩

theorem oneMore_removeLast (h : s ≠ []) : OneMore (removeLast s) s :=
  ⟨s.dropLast, s.getLast h, [], (List.append_nil _).symm, (List.dropLast_concat_getLast h).symm⟩

/-! ## To remove a token and insert behind another one -/

/-- What was removed stood behind the token: an insertion at the index behind it still lands there. -/
theorem insert_eraseIdx_of_lt (hj : before.length < j) (t x : α) :
    insert ((before ++ t :: after).eraseIdx j) x (some (before.length + 1 : Nat)) =
      before ++ t :: x :: after.eraseIdx (j - (before.length + 1)) := by
  obtain ⟨k, rfl⟩ : ∃ k, j = before.length + (k + 1) := ⟨j - before.length - 1, by omega⟩
  have hsplit : (before ++ t :: after).eraseIdx (before.length + (k + 1)) =
      (before ++ [t]) ++ after.eraseIdx k := by
    rw [List.eraseIdx_append_of_length_le (Nat.le_add_right _ _), Nat.add_sub_cancel_left,
      List.eraseIdx_cons_succ, List.append_assoc, List.singleton_append]
  have hlength : before.length + 1 = (before ++ [t]).length := by simp
  have hk : before.length + (k + 1) - (before.length + 1) = k := by omega
  rw [hsplit, hk, hlength, insert_length_append]
  simp

/-- What was removed stood before the last token: the index is beyond the end, so that an insertion
lands there. -/
theorem insert_eraseIdx_of_gt_last (hj : j < before.length) (t x : α) :
    insert ((before ++ [t]).eraseIdx j) x (some (before.length + 1 : Nat)) =
      before.eraseIdx j ++ [t, x] := by
  have hlength := List.length_eraseIdx_of_lt hj
  have hshort : (before.eraseIdx j ++ [t]).length < before.length + 1 := by
    rw [List.length_append, hlength, List.length_singleton]
    omega
  rw [List.eraseIdx_append_of_lt_length hj, insert_of_lt hshort]
  simp

/-- What was removed stood before a token that is not the last one: an insertion at the index lands
behind the token after it. -/
theorem insert_eraseIdx_of_gt (hj : j < before.length) (t v x : α) :
    insert ((before ++ t :: v :: after).eraseIdx j) x (some (before.length + 1 : Nat)) =
      before.eraseIdx j ++ t :: v :: x :: after := by
  have hlength := List.length_eraseIdx_of_lt hj
  have hplace : before.length + 1 = (before.eraseIdx j ++ [t, v]).length := by
    rw [List.length_append, hlength]
    simp only [List.length_cons, List.length_nil]
    omega
  have hsplit : before.eraseIdx j ++ t :: v :: after = (before.eraseIdx j ++ [t, v]) ++ after := by
    simp
  rw [List.eraseIdx_append_of_lt_length hj, hplace, hsplit, insert_length_append]
  simp

/-! ## Edits that undo each other -/

theorem removeAt_insert {i : Int} (h : 0 ≤ i ∧ i ≤ s.length) (t : α) :
    removeAt (insert s t (some i)) i = s := by
  obtain ⟨n, rfl⟩ := Int.eq_ofNat_of_zero_le h.1
  have hn : n ≤ s.length := Int.ofNat_le.mp h.2
  rw [insert_of_le hn, removeAt_natCast, List.eraseIdx_insertIdx_self]

theorem insert_removeAt {i : Int} (h : InRange s i) {t : α} (ht : s[i.toNat]? = some t) :
    insert (removeAt s i) t (some i) = s := by
  obtain ⟨n, rfl⟩ := Int.eq_ofNat_of_zero_le h.1
  rw [Int.toNat_natCast] at ht
  obtain ⟨hn, rfl⟩ := List.getElem?_eq_some_iff.mp ht
  have hle : n ≤ (s.eraseIdx n).length := by
    rw [List.length_eraseIdx_of_lt hn]
    omega
  rw [removeAt_natCast, insert_of_le hle, List.insertIdx_eraseIdx_getElem hn]

theorem removeLast_insert_none (s : List α) (t : α) : removeLast (insert s t none) = s :=
  List.dropLast_concat

/-- A token that is inserted at a place of the sequence is removed there again, and one that is removed
is put back where it was. At every other index, a negative one included, a token goes to the end, where
it is the last one to be removed, and nothing is removed. The other tokens stay as they are, in their
order and each as often as before. -/
theorem edits_undo_each_other (s : List α) (t : α) (i : Int) :
    (0 ≤ i ∧ i ≤ s.length → removeAt (insert s t (some i)) i = s) ∧
      (0 ≤ i ∧ i < s.length → ∃ x before after, s[i.toNat]? = some x ∧
        insert (removeAt s i) x (some i) = s ∧
        s = before ++ x :: after ∧ removeAt s i = before ++ after) ∧
      (¬ (0 ≤ i ∧ i ≤ s.length) →
        insert s t (some i) = insert s t none ∧ removeLast (insert s t (some i)) = s) ∧
      (¬ (0 ≤ i ∧ i < s.length) → removeAt s i = s) ∧
      (∀ index, ∃ before after, s = before ++ after ∧ insert s t index = before ++ t :: after) ∧
      (s = [] ∧ removeLast s = [] ∨ ∃ x, s = removeLast s ++ [x]) := by
  refine ⟨fun h => removeAt_insert h t, ?_, ?_, removeAt_of_not_inRange, exists_insert_eq s t, ?_⟩
  · intro h
    obtain ⟨x, before, after, hx, hs, hremove⟩ := exists_removeAt_eq h
    exact ⟨x, before, after, hx, insert_removeAt h hx, hs, hremove⟩
  · intro h
    have hend := insert_of_not_place h t
    refine ⟨hend, ?_⟩
    rw [hend, removeLast_insert_none]
  · by_cases hs : s = []
    · exact Or.inl ⟨hs, by rw [hs]; rfl⟩
    · exact Or.inr ⟨s.getLast hs, (List.dropLast_concat_getLast hs).symm⟩

/-- A formula in which the token stands already, an index behind its first tokens and a negative one. -/
theorem edits_undo_each_other_repeated :
    let s := ["x", "+", "x"].map Token.ofText
    let t := Token.ofText "x"
    removeAt (insert s t (some 2)) 2 = s ∧ insert (removeAt s 2) t (some 2) = s ∧
      insert s t (some (-1)) = insert s t none ∧ removeLast (insert s t (some (-1))) = s ∧
      removeAt s (-1) = s := by
  intro s t
  obtain ⟨hinsert, hremove, -⟩ := edits_undo_each_other s t 2
  obtain ⟨-, -, hend, hkept, -⟩ := edits_undo_each_other s t (-1)
  obtain ⟨x, -, -, hx, hback, -⟩ := hremove (by decide)
  obtain rfl : t = x := Option.some.inj hx
  obtain ⟨hnone, hlast⟩ := hend (by decide)
  exact ⟨hinsert (by decide), hback, hnone, hlast, hkept (by decide)⟩

end Formula

end Formulary

import Formulary.Suggestion.Source
import Mathlib.Data.List.Basic
import Mathlib.Data.List.TakeWhile

/-!
# Searching a fixed list

The candidates of a fixed list are found by the lower case of their names. A capital sigma has two
lower cases, and what stands around it decides between them, so that the lower case of a name need not
start with the lower case of its beginning. This is the only way in which a name is missed while it is
typed.
-/

namespace Formulary

namespace Text

variable {xs ys zs : List Char}

/-- A text that ends, but for characters that are skipped, in a sigma which is final there. -/
def endsInSigma (cs : List Char) : Bool :=
  match cs.reverse.dropWhile isCaseIgnorable with
  | [] => false
  | c :: before => c == 'Σ' && reachesCased before

theorem isCaseIgnorable_sigma : isCaseIgnorable 'Σ' = false := by decide +kernel

theorem isCased_sigma : isCased 'Σ' = true := by decide +kernel

theorem reachesCased_sigma (cs : List Char) : reachesCased ('Σ' :: cs) = true := by
  rw [reachesCased, List.dropWhile_cons_of_neg (by simp [isCaseIgnorable_sigma])]
  exact isCased_sigma

theorem reachesCased_append (xs ys : List Char) :
    reachesCased (xs ++ ys) = if xs.all isCaseIgnorable then reachesCased ys else reachesCased xs := by
  induction xs with
  | nil => rfl
  | cons x xs ih =>
    cases hx : isCaseIgnorable x with
    | true => simpa [reachesCased, hx] using ih
    | false => simp [reachesCased, hx]

theorem reachesCased_of_all (h : xs.all isCaseIgnorable = true) : reachesCased xs = false := by
  have hnil : xs.dropWhile isCaseIgnorable = [] :=
    List.dropWhile_eq_nil_iff.mpr (List.all_eq_true.mp h)
  rw [reachesCased, hnil]

theorem endsInSigma_iff {cs : List Char} :
    endsInSigma cs = true ↔ ∃ us vs, cs = us ++ 'Σ' :: vs ∧ reachesCased us.reverse = true ∧
      vs.all isCaseIgnorable = true := by
  constructor
  · intro h
    unfold endsInSigma at h
    split at h
    · cases h
    · rename_i c before hdrop
      obtain ⟨hc, hbefore⟩ := Bool.and_eq_true_iff.mp h
      obtain rfl := eq_of_beq hc
      refine ⟨before.reverse, (cs.reverse.takeWhile isCaseIgnorable).reverse, ?_, ?_, ?_⟩
      · have hsplit := List.takeWhile_append_dropWhile (p := isCaseIgnorable) (l := cs.reverse)
        rw [hdrop] at hsplit
        simpa using congrArg List.reverse hsplit.symm
      · rwa [List.reverse_reverse]
      · rw [List.all_reverse]
        exact List.all_takeWhile
  · rintro ⟨us, vs, rfl, hus, hvs⟩
    have hdrop : (us ++ 'Σ' :: vs).reverse.dropWhile isCaseIgnorable = 'Σ' :: us.reverse := by
      have hall : ∀ c ∈ vs.reverse, isCaseIgnorable c = true := by
        simpa using List.all_eq_true.mp hvs
      rw [List.reverse_append, List.reverse_cons, List.append_assoc,
        List.dropWhile_append_of_pos hall, List.singleton_append, List.dropWhile_cons_of_neg]
      simp [isCaseIgnorable_sigma]
    rw [endsInSigma, hdrop]
    simpa using hus

/-- A text that goes on in two ways has the same lower case in both, as long as each of its sigmas is
final in both or in neither. -/
theorem lowerFrom_append {before : List Char}
    (h : ∀ us vs, xs = us ++ 'Σ' :: vs →
      isFinalSigma (us.reverse ++ before) (vs ++ ys) = isFinalSigma (us.reverse ++ before) (vs ++ zs)) :
    ∃ start, lowerFrom before (xs ++ ys) = start ++ lowerFrom (xs.reverse ++ before) ys ∧
      lowerFrom before (xs ++ zs) = start ++ lowerFrom (xs.reverse ++ before) zs := by
  -- what stands before a character is kept in reverse, and grows along the common beginning
  induction xs generalizing before with
  | nil => exact ⟨[], rfl, rfl⟩
  | cons x xs ih =>
    have htail : ∀ us vs, xs = us ++ 'Σ' :: vs →
        isFinalSigma (us.reverse ++ x :: before) (vs ++ ys) =
          isFinalSigma (us.reverse ++ x :: before) (vs ++ zs) := by
      rintro us vs rfl
      simpa using h (x :: us) vs rfl
    obtain ⟨start, hys, hzs⟩ := ih htail
    have hfirst : x = 'Σ' → isFinalSigma before (xs ++ ys) = isFinalSigma before (xs ++ zs) := by
      rintro rfl
      exact h [] xs rfl
    refine ⟨(if x = 'Σ' then [if isFinalSigma before (xs ++ ys) then 'ς' else 'σ']
      else lowerChar x) ++ start, ?_, ?_⟩
    · simp only [List.cons_append, lowerFrom, hys, List.reverse_cons, List.append_assoc,
        List.nil_append]
    · by_cases hx : x = 'Σ'
      · simp only [List.cons_append, lowerFrom, hzs, hfirst hx, List.reverse_cons, List.append_assoc,
          List.nil_append]
      · simp only [List.cons_append, lowerFrom, hzs, if_neg hx, List.reverse_cons, List.append_assoc,
          List.nil_append]

/-- Before a sigma, or a text that starts with one, no sigma is final. -/
theorem isFinalSigma_before_sigma (before us vs : List Char) :
    isFinalSigma before (us ++ 'Σ' :: vs) = isFinalSigma before (us ++ ['Σ']) := by
  simp only [isFinalSigma, reachesCased_append, reachesCased_sigma]

/-- The lower case of a text starts with that of its beginning, unless the beginning ends in a sigma
that is final there and not in the text. -/
theorem lowerFrom_prefix_iff :
    lowerFrom [] xs <+: lowerFrom [] (xs ++ ys) ↔
      ¬ (endsInSigma xs = true ∧ reachesCased ys = true) := by
  constructor
  · -- up to the last sigma the two lower cases agree, and there they part
    rintro hprefix ⟨hsigma, hreaches⟩
    obtain ⟨us, vs, rfl, hus, hvs⟩ := endsInSigma_iff.mp hsigma
    have hsame : ∀ us' vs', us = us' ++ 'Σ' :: vs' →
        isFinalSigma (us'.reverse ++ []) (vs' ++ 'Σ' :: vs) =
          isFinalSigma (us'.reverse ++ []) (vs' ++ 'Σ' :: (vs ++ ys)) := by
      intro us' vs' _
      rw [isFinalSigma_before_sigma, isFinalSigma_before_sigma _ _ (vs ++ ys)]
    obtain ⟨start, hshort, hlong⟩ := lowerFrom_append hsame
    have hfinal : isFinalSigma us.reverse vs = true := by
      simp [isFinalSigma, hus, reachesCased_of_all hvs]
    have hinner : isFinalSigma us.reverse (vs ++ ys) = false := by
      simp [isFinalSigma, reachesCased_append, hvs, hreaches]
    rw [List.append_assoc, List.cons_append, hshort, hlong, List.prefix_append_right_inj] at hprefix
    simp [lowerFrom, hfinal, hinner] at hprefix
  · intro h
    have hsame : ∀ us vs, xs = us ++ 'Σ' :: vs →
        isFinalSigma (us.reverse ++ []) (vs ++ []) = isFinalSigma (us.reverse ++ []) (vs ++ ys) := by
      intro us vs hxs
      rw [List.append_nil, List.append_nil, isFinalSigma, isFinalSigma, reachesCased_append]
      split
      · rename_i hvs
        rw [reachesCased_of_all hvs]
        cases hus : reachesCased us.reverse with
        | false => rfl
        | true =>
          have hys : reachesCased ys = false := by
            have hsigma := endsInSigma_iff.mpr ⟨us, vs, hxs, hus, hvs⟩
            simpa [hsigma] using h
          rw [hys]
      · rfl
    obtain ⟨start, hshort, hlong⟩ := lowerFrom_append hsame
    rw [List.append_nil] at hshort
    rw [hshort, hlong, lowerFrom, List.append_nil]
    exact List.prefix_append start _

end Text

namespace Suggestion

open Text

variable {candidates : List Operand} {query : String} {c : Operand}

theorem mem_offlineMatches_iff :
    c ∈ offlineMatches candidates query ↔
      c ∈ candidates ∧ lowerFrom [] query.toList <+: lowerFrom [] c.name.toList := by
  simp [offlineMatches, lower, List.mem_filter]

theorem toItem_injective : Function.Injective Operand.toItem := by
  intro x y h
  have hread := congrArg Operand.ofItem? h
  rwa [Operand.ofItem?_toItem, Operand.ofItem?_toItem, Option.some.injEq] at hread

/-- The answer to a query holds every candidate whose name starts with it, except where the query ends
in a sigma that is final there and not in the name. -/
theorem offline_search_misses_only_sigma (candidates : List Operand) (query : String) :
    ∃ items, offlineAnswer candidates query = .payload (.arr items) ∧
      ∀ c ∈ candidates, ∀ rest, c.name.toList = query.toList ++ rest →
        (c.toItem ∈ items ↔ ¬ (endsInSigma query.toList = true ∧ reachesCased rest = true)) := by
  refine ⟨_, rfl, fun c hc rest hname => ?_⟩
  rw [List.mem_map_of_injective toItem_injective, mem_offlineMatches_iff, hname, lowerFrom_prefix_iff]
  exact and_iff_right hc

/-- The sigma at the end of the query stays final in one name and not in the other. -/
theorem offline_search_misses_only_sigma_greek :
    ∃ items, offlineAnswer [{ name := "ΟΔΟΣ-1" }, { name := "ΟΔΟΣΑ" }] "ΟΔΟΣ" =
        .payload (.arr items) ∧
      Operand.toItem { name := "ΟΔΟΣ-1" } ∈ items ∧ Operand.toItem { name := "ΟΔΟΣΑ" } ∉ items := by
  obtain ⟨items, hitems, hfound⟩ :=
    offline_search_misses_only_sigma [{ name := "ΟΔΟΣ-1" }, { name := "ΟΔΟΣΑ" }] "ΟΔΟΣ"
  have hsigma : endsInSigma "ΟΔΟΣ".toList = true := by decide +kernel
  have hend : reachesCased ['-', '1'] = false := by decide +kernel
  have hletter : reachesCased ['Α'] = true := by decide +kernel
  refine ⟨items, hitems, (hfound _ (by simp) ['-', '1'] rfl).mpr (by simp [hend]), fun hmem => ?_⟩
  exact (hfound _ (by simp) ['Α'] rfl).mp hmem ⟨hsigma, hletter⟩

/-- A name that starts with the query need not be found. -/
theorem prefix_not_offered :
    ¬ ∀ (candidates : List Operand) (query : String), ∀ c ∈ candidates,
      query.toList <+: c.name.toList → c ∈ offlineMatches candidates query := by
  intro h
  have hfound := h [{ name := "ΑΣΑ" }] "ΑΣ" { name := "ΑΣΑ" } List.mem_cons_self (by decide)
  revert hfound
  decide +kernel

end Suggestion

end Formulary

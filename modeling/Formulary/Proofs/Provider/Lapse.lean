import Formulary.Proofs.Provider.Advance
import Formulary.Proofs.Provider.Lifecycle

/-!
# Calls that lapse

A call may end without an answer. If it breaks off, so does its load: whoever waits is told that much,
and the entry of the key stays behind, pending, with no load to it. If the end of a call is reported to
nobody, its load stays as it is, and who waits for it does so until the wait is given up.
-/

namespace Formulary

namespace Provider

variable {p : Provider} {l : Load} {w : Nat}

/-! ## Calls that break off -/

theorem lapse_of_calling (hl : p.load? l.id = some l) (hstage : l.stage = .calling) :
    p.lapse l.id = p.leave l .cancelled := by
  simp only [lapse, hl, hstage]

theorem Sound.leave (h : p.Sound) (hl : l ∈ p.loads) (r : WaitResult) : (p.leave l r).Sound := by
  rw [leave_eq]
  exact h.settled hl _

theorem Sound.lapse (h : p.Sound) (id : Nat) : (p.lapse id).Sound := by
  unfold Provider.lapse
  split
  · rename_i l hl
    split
    · exact h.leave (mem_of_load? hl).1 _
    · exact h
  · exact h

theorem Sound.conclude (h : p.Sound) (id : Nat) (e : Ending) : (p.conclude id e).value.Sound := by
  rcases e with (_ | _) | answer
  · exact h.lapse id
  · exact h
  · exact h.move (.receive id answer)

/-- A load is gone without an outcome, and its waiters know no more than that. -/
structure Abandons (p : Provider) (l : Load) (q : Provider) : Prop where
  sound : q.Sound
  loads : ∀ m, m ∈ q.loads ↔ m ∈ p.loads ∧ m ≠ l
  free : l.key ∉ q.inFlight
  cache : q.cache = p.cache
  told : ∀ w ∈ l.waiters, q.result? w = some .cancelled

theorem abandons (hs : p.Sound) (hl : l ∈ p.loads) (hstage : l.stage = .calling) :
    p.Abandons l (p.lapse l.id) := by
  have hsound := hs.leave hl .cancelled
  rw [lapse_of_calling (hs.load?_eq_some hl) hstage]
  have hloads (m : Load) : m ∈ (p.leave l .cancelled).loads ↔ m ∈ p.loads ∧ m ≠ l := by
    rw [leave_eq, List.mem_filter, decide_eq_true_iff]
    refine and_congr_right fun hm => not_congr ⟨hs.eq_of_id hm hl, ?_⟩
    rintro rfl
    rfl
  refine ⟨hsound, hloads, ?_, by rw [leave_eq], ?_⟩
  · intro hmem
    rw [inFlight, hsound.shared, List.map_map] at hmem
    obtain ⟨m, hm, hkey⟩ := List.mem_map.mp hmem
    obtain ⟨hm, hne⟩ := (hloads m).mp hm
    exact hne (hs.eq_of_key hm hl hkey)
  · intro w hw
    rw [leave_eq, result?, lookup_told, if_pos hw]

/-! ## Exceptions -/

/-- What comes of a load whose call ends with an exception. One that cancels the call breaks off the
load, and one that sticks is reported to nobody. Any other is its answer, a payload if the exception
brings one along and else a breakdown, unless it has no text to be described by. -/
structure Breaks (p : Provider) (l : Load) (e : SourceException) (q : Provider) : Prop where
  cancelled : e.Cancels → p.Abandons l q
  stuck : e.Sticks → q = p
  returned : ¬ e.Cancels → ¬ e.Sticks → ∀ v, e.brought = some v →
    q = p.move (.receive l.id (.payload v))
  failed : ¬ e.Cancels → ¬ e.Sticks → e.brought = none → ∀ text, e.text = some text →
    q = p.move (.receive l.id (.breakdown e.kind text))
  undescribed : ¬ e.Cancels → ¬ e.Sticks → e.brought = none → e.text = none → p.Abandons l q

theorem breaks (hs : p.Sound) (hl : l ∈ p.loads) (hstage : l.stage = .calling)
    (e : SourceException) : p.Breaks l e (p.conclude l.id e.ending).value where
  cancelled := by
    intro hcancels
    rw [SourceException.ending, if_pos hcancels]
    exact abandons hs hl hstage
  stuck := by
    intro hsticks
    have hnot : ¬ e.Cancels := fun hcancels => absurd (hcancels.2.symm.trans hsticks.2) (by decide)
    rw [SourceException.ending, if_neg hnot, if_pos hsticks]
    rfl
  returned := by
    intro hcancels hsticks v hbrought
    rw [SourceException.ending, if_neg hcancels, if_neg hsticks, hbrought]
    rfl
  failed := by
    intro hcancels hsticks hbrought text htext
    rw [SourceException.ending, if_neg hcancels, if_neg hsticks, hbrought, htext]
    rfl
  undescribed := by
    intro hcancels hsticks hbrought htext
    rw [SourceException.ending, if_neg hcancels, if_neg hsticks, hbrought, htext]
    exact abandons hs hl hstage

/-! ## Calls whose end is not reported -/

/-- A load whose call is out stays so until an answer arrives. -/
theorem calling_move (hs : p.Sound) (hl : l ∈ p.loads) (hstage : l.stage = .calling) {m : Move}
    (hm : ∀ answer, m ≠ .receive l.id answer) :
    ∃ l' ∈ (p.move m).loads, l'.tag = l.tag ∧ l'.stage = .calling ∧
      ∀ w ∈ l.waiters, m ≠ .cancel w → w ∈ l'.waiters := by
  by_cases hsettle : m = .settle l.id
  · have hidle : p.settle l.id = p :=
      settle_of_not_finished (hs.load?_eq_some hl) fun o ho => nomatch hstage.symm.trans ho
    rw [hsettle, move, hidle]
    exact ⟨l, hl, rfl, hstage, fun w hw _ => hw⟩
  · obtain ⟨l', hl', htag, hstages, hwaiters⟩ := load_move hs hl hsettle
    refine ⟨l', hl', htag, ?_, hwaiters⟩
    rcases hstages with hsame | ⟨hnot, -⟩ | ⟨-, ⟨answer, hreceive⟩, -⟩
    · exact hsame.trans hstage
    · cases hstage.symm.trans hnot
    · exact absurd hreceive (hm answer)

/-- However a run goes on, a load that hears of no end of its call is no further at the end of it, and
whoever waited for it and has not given up still waits. -/
theorem calling_run (hs : p.Sound) (hl : l ∈ p.loads) (hstage : l.stage = .calling)
    {later : List Move} (hlater : ∀ answer, .receive l.id answer ∉ later) :
    ∃ l' ∈ (p.run later).loads, l'.tag = l.tag ∧ l'.stage = .calling ∧
      ∀ w ∈ l.waiters, .cancel w ∉ later → w ∈ l'.waiters := by
  induction later generalizing p l with
  | nil => exact ⟨l, hl, rfl, hstage, fun w hw _ => hw⟩
  | cons m rest ih =>
    have hm : ∀ answer, m ≠ .receive l.id answer := by
      rintro answer rfl
      exact hlater answer List.mem_cons_self
    obtain ⟨l', hl', htag, hstage', hwaiters⟩ := calling_move hs hl hstage hm
    have hid : l'.id = l.id := congrArg Prod.snd htag
    have hrest : ∀ answer, .receive l'.id answer ∉ rest := fun answer hmem =>
      hlater answer (hid ▸ List.mem_cons_of_mem m hmem)
    obtain ⟨l'', hl'', htag', hstage'', hwaiters'⟩ := ih (hs.move m) hl' hstage' hrest
    refine ⟨l'', hl'', htag'.trans htag, hstage'', ?_⟩
    intro w hw hcancel
    obtain ⟨hne, hnot⟩ := not_or.mp fun h => hcancel (List.mem_cons.mpr h)
    exact hwaiters' w (hwaiters w hw (Ne.symm hne)) hnot

end Provider

end Formulary

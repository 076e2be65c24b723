import Formulary.Proofs.Controller.LastQuery
import Formulary.Proofs.Leads
import Formulary.Proofs.Provider.Advance

/-!
# The schedule of the program

The program does not let moves come in any order: it advances loads and refreshes in the order in which
they were begun. As long as no call lapses, what it comes to that way is the end of a run, so that all
that holds after every run in a loop holds of the program.
-/

namespace Formulary

namespace Provider

def Move.OfLoad : Move → Prop
  | .call _ | .receive .. | .settle _ => True
  | _ => False

/-- Loads that move on lead from one state to another. -/
abbrev Leads : Provider → Provider → Prop := LeadsBy move Move.OfLoad

theorem leads_move (p : Provider) (m : Move) (h : m.OfLoad) : Leads p (p.move m) := .move p m h

variable {s : Supply}

theorem leads_exchange (hs : s.Sure) (p : Provider) (l : Load) :
    Leads p (exchange (s, p) l).value.2 := by
  rcases exchange_cases hs p l with heq | heq <;> rw [heq]
  · exact .refl p
  · exact leads_move p (.receive l.id (s.answer l.key)) trivial

theorem leads_foldl_exchange (loads : List Load) (hs : s.Sure) (p : Provider) :
    Leads p (loads.foldl (fun state l => (exchange state l).value) (s, p)).2 := by
  induction loads generalizing s p with
  | nil => exact .refl p
  | cons l rest ih => exact (leads_exchange hs p l).trans (ih (exchange_kept hs p l).1 _)

theorem leads_advance (hs : s.Sure) (p : Provider) : Leads p (p.advance s).value.2 := by
  simp only [advance, Noted.value_bind, Noted.value_fold, Noted.value_pure]
  refine .trans ?_ (.foldl (fun q id => leads_move q (.settle id) trivial) _ _)
  refine .trans ?_ (leads_foldl_exchange _ hs _)
  exact .foldl (fun q id => leads_move q (.call id) trivial) _ p

end Provider

namespace Controller

/-- Refreshes and loads that move on in a loop lead from one state to another. -/
abbrev Leads : Controller → Controller → Prop := LeadsBy move Move.Looped

theorem leads_move (c : Controller) (m : Move) (h : m.Looped) : Leads c (c.move m) := .move c m h

theorem looped_of_ofLoad {m : Provider.Move} (h : m.OfLoad) : Move.Looped (.provider m) := by
  cases m with
  | call | receive | settle => trivial
  | fetch | cancel | invalidate => exact h.elim

theorem leads_provider (c : Controller) {p : Provider} (h : c.provider.Leads p) :
    Leads c { c with provider := p } :=
  h.map (f := fun p => { c with provider := p }) (g := .provider) (fun _ _ => rfl) fun _ =>
    looped_of_ofLoad

variable {s : Supply}

/-- All refreshes are started before anything else moves on. -/
theorem leads_advance_of_starts (hs : s.Sure) (c : Controller) :
    Leads (c.run (c.refreshes.map fun r => .start r.id)) (c.advance s).value.2 := by
  have hstarts : c.run (c.refreshes.map fun r => .start r.id) =
      c.refreshes.foldl (fun d r => (d.start r.id).value.1) c := by
    rw [run, List.foldl_map]
    rfl
  simp only [advance, Noted.value_bind, Noted.value_fold, Noted.value_map, Noted.value_pure]
  refine .trans ?_ (.foldl (fun d (r : Refresh) => leads_move d (.resume r.id) trivial) _ _)
  rw [hstarts]
  exact leads_provider _ (Provider.leads_advance hs _)

/-- What the program does at a turn of its loop is a run of moves in a loop. -/
theorem leads_advance (hs : s.Sure) (c : Controller) : Leads c (c.advance s).value.2 := by
  have hlooped : ∀ m ∈ c.refreshes.map fun r => Move.start r.id, m.Looped := by simp [Move.Looped]
  have hstarts : Leads c (c.run (c.refreshes.map fun r => .start r.id)) := ⟨_, hlooped, rfl⟩
  exact hstarts.trans (leads_advance_of_starts hs c)

/-- To fetch the suggestions of the live key is a run of moves in a loop. -/
theorem leads_refresh (hs : s.Sure) (c : Controller) : Leads c (c.refresh s).value.2.1 := by
  have hschedule : Leads c c.schedule := leads_move c .schedule trivial
  have hstart : Leads c (c.schedule.start c.refreshCount).value.1 :=
    hschedule.trans (leads_move _ (.start c.refreshCount) trivial)
  simp only [refresh, Noted.value_bind]
  split
  · exact hstart
  · refine .trans ?_ (leads_move _ (.resume c.refreshCount) trivial)
    exact hstart.trans (leads_provider _ (Provider.leads_advance hs _))

end Controller

end Formulary

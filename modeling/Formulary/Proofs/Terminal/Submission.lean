import Formulary.Proofs.Terminal.Line

/-!
# What a line waits for

A line waits for the call that it makes, if it makes one. When that call lapses there is no answer to
the line; otherwise nothing is under way behind it.
-/

namespace Formulary

/-- The source while its calls end in the given ways. -/
def Supply.facing (s : Supply) (e : String → Ending) : Supply :=
  { s with
    answer := fun q => (e q).toOption.getD (s.answer q)
    lapse? := fun q =>
      match e q with
      | .ok _ => none
      | .error lapse => some lapse }

theorem Supply.ending_facing (s : Supply) (e : String → Ending) (query : String) :
    (s.facing e).ending query = e query := by
  cases he : e query <;> simp [facing, ending, he, Except.toOption]

theorem Supply.calls_called (s : Supply) (query : String) :
    (s.called query).calls = s.calls ++ [query] := by
  unfold called
  dsimp only
  split <;> rfl

/-- A call whose end is reported does not hold back its query. -/
theorem Supply.withheld_called {s : Supply} {query : String}
    (h : s.ending query ≠ .error .unreported) : (s.called query).withheld = s.withheld := by
  have hlapse : s.lapse? query ≠ some .unreported := by
    intro hlapse
    exact h (by rw [ending, hlapse]; rfl)
  rw [called, if_neg hlapse]

namespace Session

variable {s s' : Session} {line : String}

/-- Nothing is under way, and no answer is held back. -/
structure Quiet (s : Session) : Prop where
  controller : s.controller.Quiet
  free : s.supply.withheld = []

theorem Settled.quiet (h : s.Settled) : s.Quiet := ⟨h.controller.idle.quiet, h.free⟩

/-- What a line does about the source: it calls it for no query, or for one. -/
inductive Waits (s s' : Session) : Prop where
  | quiet (h : s'.Quiet) (lapse : s.lapse? s' = none) (calls : s'.supply.calls = s.supply.calls)
  | answered {q : String} {answer : Answer} (h : s'.Quiet) (lapse : s.lapse? s' = none)
      (calls : s'.supply.calls = s.supply.calls ++ [q]) (ending : s.supply.ending q = .ok answer)
  | lapsed {q : String} {l : Lapse} (h : l ≠ .unreported → s'.Quiet) (lapse : s.lapse? s' = some l)
      (calls : s'.supply.calls = s.supply.calls ++ [q]) (ending : s.supply.ending q = .error l)

theorem lapse?_of_count (h : s'.controller.refreshCount = s.controller.refreshCount) :
    s.lapse? s' = none := by
  simp [lapse?, h]

/-- A refresh that has run tells by the result of its wait how its call ended. -/
theorem Quiet.waits_of_ran (h : s.Quiet) {c d : Controller} {supply : Supply} (hc : c.Quiet)
    (hcount : s.controller.refreshCount = c.refreshCount)
    (hran : Controller.Ran s.supply c (supply, d)) :
    Waits s { s with supply, controller := d } := by
  have hnext : d.refreshCount = c.refreshCount + 1 := hran.refreshCount
  have hlapse : s.lapse? { s with supply, controller := d } =
      lapseOfWait (d.provider.result? c.refreshCount) := by simp [lapse?, hcount, hnext]
  have hfree {e : Ending} (hending : s.supply.ending c.editor.key = e) (he : e ≠ .error .unreported) :
      (s.supply.called c.editor.key).withheld = [] :=
    (Supply.withheld_called (hending ▸ he)).trans h.free
  cases hran with
  | told =>
    refine .quiet ⟨hc.refreshed (hc.provider.finish _ _) rfl _, h.free⟩ ?_ rfl
    rw [hlapse, Controller.provider_refreshed, Provider.result?_finish]
    rfl
  | @answered answer hk _ hending =>
    have hquiet := hc.provider.ended hk c.refreshCount (e := .ok answer) nofun
    refine .answered ⟨hc.refreshed hquiet rfl _, hfree hending nofun⟩ ?_ (Supply.calls_called _ _) hending
    rw [hlapse, Controller.provider_refreshed, Provider.result?_loaded]
    rfl
  | abandoned hk hending =>
    have hquiet := hc.provider.ended hk c.refreshCount (e := .error .brokenOff) nofun
    refine .lapsed (fun _ => ⟨hc.refreshed hquiet rfl _, hfree hending nofun⟩) ?_
      (Supply.calls_called _ _) hending
    rw [hlapse, Controller.provider_refreshed, Provider.result?_abandoned]
    rfl
  | unreported hk hending =>
    refine .lapsed (fun hne => absurd rfl hne) ?_ (Supply.calls_called _ _) hending
    rw [hlapse, Controller.provider_asking, Provider.result?_called, hc.not_waiting]
    rfl

theorem Quiet.waits_fetched (h : s.Quiet) (event : InputEvent) :
    Waits s (s.handle event).refresh.value := by
  have hopen : (s.handle event).controller.editor.key ∉ s.supply.withheld := by
    rw [h.free]
    exact List.not_mem_nil
  have hc : (s.handle event).controller.Quiet := h.controller.handle event
  rw [value_refresh]
  exact h.waits_of_ran hc rfl (hc.refresh hopen)

/-- A line calls the source for one query at most, and waits for that call. -/
theorem Quiet.waits (h : s.Quiet) (line : String) : Waits s (s.takeLine line).value.2 := by
  have ht := taken s line
  have hidle : Waits s s := .quiet h (lapse?_of_count rfl) rfl
  generalize (s.takeLine line).value = r at ht ⊢
  cases ht with
  | helped | listed | failed | unknown | misplaced | quit => exact hidle
  | shown hs =>
    cases hs with
    | stays => exact hidle
    | @handled event _ =>
      exact .quiet ⟨h.controller.handle event, h.free⟩ (lapse?_of_count rfl) rfl
    | fetched event => exact h.waits_fetched event

theorem Waits.lapse?_eq_some_iff (h : Waits s s') {l : Lapse} :
    s.lapse? s' = some l ↔
      ∃ q, s'.supply.calls = s.supply.calls ++ [q] ∧ s.supply.ending q = .error l := by
  cases h with
  | quiet _ lapse calls =>
    rw [lapse, calls]
    refine ⟨nofun, ?_⟩
    rintro ⟨q, hcalls, -⟩
    exact absurd (List.self_eq_append_right.mp hcalls) (List.cons_ne_nil q [])
  | @answered q answer _ lapse calls ending =>
    rw [lapse, calls]
    refine ⟨nofun, ?_⟩
    rintro ⟨q', hcalls, hending⟩
    obtain rfl : q = q' := List.singleton_inj.mp (List.append_cancel_left hcalls)
    cases ending.symm.trans hending
  | @lapsed q l' _ lapse calls ending =>
    rw [lapse, calls]
    constructor
    · rintro ⟨⟩
      exact ⟨q, rfl, ending⟩
    · rintro ⟨q', hcalls, hending⟩
      obtain rfl : q = q' := List.singleton_inj.mp (List.append_cancel_left hcalls)
      cases ending.symm.trans hending
      rfl

theorem Waits.quiet_of_lapse? (h : Waits s s') (hne : s.lapse? s' ≠ some .unreported) :
    s'.Quiet := by
  cases h with
  | quiet h | answered h => exact h
  | lapsed h lapse => exact h fun heq => hne (heq ▸ lapse)

/-! ## Submitted lines -/

theorem value_submit (s : Session) (line : String) :
    (s.submit line).value =
      ((s.lapse? (s.takeLine line).value.2).elim (.ok (s.takeLine line).value.1) .error,
        (s.takeLine line).value.2) := rfl

theorem submit_eq_error_iff {l : Lapse} :
    (s.submit line).value.1 = .error l ↔ s.lapse? (s.takeLine line).value.2 = some l := by
  rw [value_submit]
  cases s.lapse? (s.takeLine line).value.2 <;> simp

theorem submit_eq_ok_iff {a : LineResult} :
    (s.submit line).value.1 = .ok a ↔
      s.lapse? (s.takeLine line).value.2 = none ∧ (s.takeLine line).value.1 = a := by
  rw [value_submit]
  cases s.lapse? (s.takeLine line).value.2 <;> simp

/-- If no call lapses, every line is answered when it has been taken. -/
theorem Settled.submit (h : s.Settled) (line : String) :
    (s.submit line).value = (.ok (s.takeLine line).value.1, (s.takeLine line).value.2) := by
  have hnone : s.lapse? (s.takeLine line).value.2 = none := by
    rw [Option.eq_none_iff_forall_ne_some]
    intro l hl
    obtain ⟨q, -, hending⟩ := (h.quiet.waits line).lapse?_eq_some_iff.mp hl
    cases (h.sure.ending q).symm.trans hending
  rw [value_submit, hnone]
  rfl

/-- The session with a source that ends its calls in the given ways. -/
def facing (s : Session) (e : String → Ending) : Session := { s with supply := s.supply.facing e }

theorem Quiet.facing (h : s.Quiet) (e : String → Ending) : (s.facing e).Quiet :=
  ⟨h.controller, h.free⟩

/-- The sessions that submitted lines lead to, however the source ends its calls meanwhile. A line whose
call is never reported to end leads to none. -/
inductive Met : Session → Prop where
  | created {config : Config} {palette : Palette} {reply : String → Reply} {s : Session}
      (h : create config palette reply = .ok s) : Met s
  | submitted {s : Session} (h : Met s) (e : String → Ending) (line : String)
      (hends : ((s.facing e).submit line).value.1 ≠ .error .unreported) :
      Met ((s.facing e).submit line).value.2

theorem Met.quiet (h : Met s) : s.Quiet := by
  induction h with
  | created h => exact (settled_create h).quiet
  | submitted _ e line hends ih =>
    rw [value_submit]
    exact ((ih.facing e).waits line).quiet_of_lapse? (mt submit_eq_error_iff.mpr hends)

end Session

end Formulary

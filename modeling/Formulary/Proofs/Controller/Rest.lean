import Formulary.Proofs.Controller.Quiet
import Formulary.Proofs.Controller.Schedule

/-!
# The controller at rest

Outside a loop a refresh runs from its start to its end. If its call does not lapse, the waiter gets
what a peek shows from then on. So a refresh leaves the editor with the candidates that are known of its
key, and events that fetch nothing either keep the key or clear it.
-/

namespace Formulary

/-- Events that can bring up a text, for which candidates have to be fetched. -/
def InputEvent.Retypes : InputEvent → Prop
  | .text _ => True
  | .action _ name => TokenAction.ofName? name = some .edit
  | .key _ | .click _ | .select _ => False

/-- Any other event keeps the key or clears it. -/
theorem Editor.key_react {event : InputEvent} (h : ¬ event.Retypes) (e : Editor) (peek : Peek) :
    (e.react peek event).editor.key = e.key ∨ (e.react peek event).editor.key = "" := by
  have hr := reacted peek e event
  generalize e.react peek event = r at hr ⊢
  cases hr with
  | idle | moved | clicked => exact Or.inl rfl
  | removedLast => exact Or.inl (by rw [key, setFormula_text, key])
  | deleted => exact Or.inl (by rw [key, setFormula_text, key])
  | entered => exact Or.inr (by rw [key, commit_text]; rfl)
  | selected => exact Or.inr (by rw [key, commit_text]; rfl)
  | escaped => exact Or.inr (by rw [key, retype_text]; rfl)
  | retyped => exact absurd trivial h
  | edited hname => exact absurd hname h

namespace Provider

variable {p : Provider} {k query : String} {w : Nat}

/-- No load is under way, and the entries agree with that. -/
structure Idle (p : Provider) : Prop extends Quiet p where
  lives : ∀ k, (p.keyState k).Lives

theorem idle_new {cache : Cache} (h : cache.entries = []) : Idle { cache } where
  sound := sound_new (Cache.valid_of_entries_nil h)
  loads := rfl
  lives := lives_new h

theorem Idle.run (h : p.Idle) {moves : List Move} (hloads : (p.run moves).loads = []) :
    (p.run moves).Idle where
  sound := h.sound.run moves
  loads := hloads
  lives := fun k => lives_run h.sound (h.lives k) moves

theorem Idle.not_pending (h : p.Idle) {e : CacheEntry} (he : p.cache.get? query = some e) :
    e.status ≠ .pending := by
  intro hpending
  have hstage : p.stage? (queryKey query) = some .calling := (h.lives _).pending e he hpending
  simp [stage?, h.loads] at hstage

theorem Idle.finish (h : p.Idle) (w : Nat) (r : WaitResult) : (p.finish w r).Idle where
  toQuiet := h.toQuiet.finish w r
  lives := h.lives

/-- An answered load is the end of a run, in which the entries go with the loads. -/
theorem Idle.loaded (h : p.Idle) (hk : Cache.IsKey k) (hcached : p.cached? k = none) (w : Nat)
    (answer : Answer) : (p.loaded k w (answer.outcome k).value).Idle := by
  have hsure : Supply.Sure { answer := fun _ => answer } := fun _ => rfl
  obtain ⟨moves, -, hrun⟩ := leads_advance hsure (p.schedule k w)
  rw [h.advance_schedule List.not_mem_nil, hsure.ending] at hrun
  change p.loaded k w (answer.outcome k).value = _ at hrun
  have hloaded : p.loaded k w (answer.outcome k).value = p.run (.fetch w k :: moves) := by
    rw [hrun, Provider.run, List.foldl_cons, h.fetch_of_not_cached hk hcached w]
  rw [hloaded]
  exact h.run (hloaded ▸ h.loads)

end Provider

namespace Controller

variable {c : Controller}

/-- No refresh and no load is under way. -/
structure Idle (c : Controller) : Prop where
  provider : c.provider.Idle
  refreshes : c.refreshes = []
  counted : ∀ r ∈ c.provider.results, r.1 < c.refreshCount
  valid : c.editor.Valid

theorem Idle.quiet (h : c.Idle) : c.Quiet := ⟨h.provider.toQuiet, h.refreshes, h.counted⟩

/-- Nothing is under way, and the editor has what is known of its key, which the cache holds. -/
structure Settled (c : Controller) : Prop where
  idle : c.Idle
  held : c.editor.key ≠ "" → ∃ e, c.provider.cache.get? c.editor.key = some e
  shown : c.editor.candidates = c.provider.peek c.editor.key

theorem settled_new {cache : Cache} (h : cache.entries = []) :
    Settled { provider := { cache } } where
  idle := ⟨Provider.idle_new h, rfl, nofun, Editor.valid_new⟩
  held := fun hne => absurd rfl hne
  shown := (Provider.peek_blank (Provider.idle_new h).sound).symm

/-! ## Refreshes -/

/-- What a refresh from its start to its end comes to if its call does not lapse. -/
structure Refreshed (s : Supply) (c : Controller) (s' : Supply) (d : Controller) : Prop where
  settled : d.Settled
  editor : ∃ candidates, d.editor = c.editor.install candidates
  supply : s' = s ∨ s' = { s with calls := s.calls ++ [c.editor.key] }

/-- The candidates that the waiter is told are what a peek shows from then on. -/
theorem Idle.settled_refreshed (h : c.Idle) {q : Provider} {o : Outcome} (hq : q.Idle)
    (hresults : q.results = (c.refreshCount, .answered o) :: c.provider.results)
    (hheld : c.editor.key ≠ "" → ∃ e, q.cache.get? c.editor.key = some e)
    (hpeek : q.peek c.editor.key = o.candidates) :
    (c.refreshed q (c.editor.install o.candidates)).Settled where
  idle := ⟨hq, h.refreshes, (h.quiet.refreshed hq.toQuiet hresults _).counted, h.valid.install _⟩
  held := by
    rw [editor_refreshed, Editor.key, Editor.install_text]
    exact hheld
  shown := by
    rw [editor_refreshed, Editor.install_candidates, Editor.key, Editor.install_text]
    exact hpeek.symm

/-- A refresh runs from its start to its end, unless the answer to its query is held back. -/
theorem Idle.refresh (h : c.Idle) {s : Supply} (hs : s.Sure) (hkey : c.editor.key ∉ s.withheld) :
    Refreshed s c (c.refresh s).value.1 (c.refresh s).value.2.1 := by
  have hran := h.quiet.refresh hkey
  generalize (c.refresh s).value.1 = s', (c.refresh s).value.2.1 = d at hran ⊢
  cases hran with
  | told held peek =>
    exact ⟨h.settled_refreshed (h.provider.finish _ _) rfl held peek, ⟨_, rfl⟩, Or.inl rfl⟩
  | @answered answer hk hcached =>
    have hheld := Provider.get?_loaded hk c.provider c.refreshCount
      (answer.outcome c.editor.key).value
    have hpeek := Provider.peek_loaded hk c.provider c.refreshCount
      (answer.outcome c.editor.key).value
    exact ⟨h.settled_refreshed (h.provider.loaded hk hcached _ answer) rfl (fun _ => ⟨_, hheld⟩) hpeek,
      ⟨_, rfl⟩, Or.inr (hs.called _)⟩
  | abandoned _ hending | unreported _ hending => cases (hs.ending _).symm.trans hending

/-! ## Events -/

theorem Idle.handle (h : c.Idle) (event : InputEvent) : (c.handle false event).1.Idle where
  provider := h.provider
  refreshes := h.refreshes
  counted := h.counted
  valid := h.valid.react _ event

/-- An event that brings up no text keeps what is known of the key, or clears the key. -/
theorem Settled.handle (h : c.Settled) {event : InputEvent} (hevent : ¬ event.Retypes) :
    (c.handle false event).1.Settled := by
  have hkey := Editor.key_react hevent c.editor c.provider.peek
  refine ⟨h.idle.handle event, ?_, ?_⟩
  · rw [handle_false]
    intro hne
    have hsame := hkey.resolve_right hne
    rw [hsame] at hne ⊢
    exact h.held hne
  · rw [handle_false]
    rcases Editor.follows_react c.provider.peek c.editor event with ⟨hsame, hcandidates⟩ | hpeek
    · rw [hcandidates, hsame]
      exact h.shown
    · exact hpeek

end Controller

end Formulary

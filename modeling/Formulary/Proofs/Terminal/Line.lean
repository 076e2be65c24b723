import Formulary.Proofs.Controller.Rest
import Formulary.Terminal.Session

/-!
# What a line does

A line either answers with a text and leaves the session as it is, or it hands an event to the editor
and answers with a picture. Only lines that bring up a text fetch, and a fetch is over when the line is.
So between two lines nothing is under way, and the suggestions are those known of the text.
-/

namespace Formulary.Session

variable {s : Session} {line : String}

/-! ## What a line can do -/

/-- The answer to a command that has no index to work with. -/
def indexError (s : Session) (c : SessionCommand) : String :=
  s.palette.paint [.red] s!"Error: :{c.name} requires a token index"

/-- The line is a command by this name. -/
def Names (line name : String) : Prop :=
  ∃ rest, line.toList = ':' :: rest ∧ (splitCommand (String.ofList rest)).1 = name

/-- A command runs by any of its names, with what stands behind the name. -/
theorem Names.takeLine {name : String} (h : Names line name) {c : SessionCommand}
    (hname : SessionCommand.ofName? name = some c) (s : Session) :
    ∃ argument, s.takeLine line = s.run c argument := by
  obtain ⟨rest, hline, hsplit⟩ := h
  refine ⟨(splitCommand (String.ofList rest)).2, ?_⟩
  simp only [Session.takeLine, hline, hsplit, hname]

/-- The sessions that are pictured behind a line: an event may be handled, and its fetch be made. -/
inductive Leads (s : Session) : Session → Prop where
  | stays : Leads s s
  | handled {event : InputEvent} (h : ¬ event.Retypes) : Leads s (s.handle event)
  | fetched (event : InputEvent) : Leads s (s.handle event).refresh.value

/-- The cases of a line, with what it leads to. -/
inductive Taken (s : Session) (line : String) : LineResult × Session → Prop where
  | helped : Taken s line (.text s.help, s)
  | listed {text : String} (h : s.bindings = .ok text) : Taken s line (.text text, s)
  | failed {e : EvalError} (h : s.bindings = .error e) : Taken s line (.failed e, s)
  | unknown (name : String) : Taken s line (.text (s.unknownCommand name), s)
  | misplaced (c : SessionCommand) : Taken s line (.text (s.indexError c), s)
  | quit {name : String} (hline : Names line name)
      (hname : SessionCommand.ofName? name = some .quit) : Taken s line (.quit, s)
  | shown {s' : Session} (h : s.Leads s') : Taken s line (.text s'.render.value, s')

theorem not_retypes_delete (i : Int) :
    ¬ InputEvent.Retypes (.action i TokenAction.delete.name) := by
  have hname : TokenAction.ofName? TokenAction.delete.name = some .delete := by decide
  rw [InputEvent.Retypes, hname]
  exact nofun

theorem value_shown (s : Session) : s.shown.value = (.text s.render.value, s) := by
  simp only [shown, Noted.value_bind, Noted.value_pure]

theorem Leads.taken {s' : Session} (h : s.Leads s') (line : String) : Taken s line s'.shown.value := by
  rw [value_shown]
  exact .shown h

theorem taken_handled (s : Session) (line : String) {event : InputEvent} (h : ¬ event.Retypes) :
    Taken s line (s.handle event).shown.value :=
  (Leads.handled h).taken line

theorem taken_key (s : Session) (line : String) (k : Key) :
    Taken s line (s.handle (.key k.name)).shown.value :=
  taken_handled s line not_false

theorem taken_retype (s : Session) (line text : String) :
    Taken s line (do (← s.retype text).shown : Noted (LineResult × Session)).value := by
  rw [Noted.value_bind]
  exact (Leads.fetched (.text text)).taken line

theorem taken_withIndex (s : Session) (line : String) (c : SessionCommand) (argument : String)
    {go : Int → Noted (LineResult × Session)} (hgo : ∀ i, Taken s line (go i).value) :
    Taken s line (s.withIndex c argument go).value := by
  unfold withIndex
  split
  · exact hgo _
  · exact .misplaced c

theorem taken_run (s : Session) {name : String} (hline : Names line name) {c : SessionCommand}
    (hname : SessionCommand.ofName? name = some c) (argument : String) :
    Taken s line (s.run c argument).value := by
  cases c with
  | help => exact .helped
  | quit => exact .quit hline hname
  | enter => exact taken_key s line .enter
  | down => exact taken_key s line .arrowDown
  | up => exact taken_key s line .arrowUp
  | esc => exact taken_key s line .escape
  | back =>
    unfold run
    dsimp only
    split
    · exact taken_key s line .backspace
    · exact taken_retype s line _
  | moveTo =>
    rw [run]
    refine taken_withIndex s line _ argument fun i => ?_
    exact taken_handled s line not_false
  | del =>
    rw [run]
    refine taken_withIndex s line _ argument fun i => ?_
    exact taken_handled s line (not_retypes_delete i)
  | edit =>
    rw [run]
    refine taken_withIndex s line _ argument fun i => ?_
    rw [Noted.value_bind]
    exact (Leads.fetched (.action i TokenAction.edit.name)).taken line
  | pick =>
    rw [run]
    refine taken_withIndex s line _ argument fun i => ?_
    exact taken_handled s line not_false
  | display => exact Leads.stays.taken line
  | vars =>
    unfold run
    dsimp only
    split
    · rename_i h
      exact .listed h
    · rename_i h
      exact .failed h

theorem taken (s : Session) (line : String) : Taken s line (s.takeLine line).value := by
  unfold takeLine
  split
  · rename_i rest hline
    dsimp only
    split
    · rename_i hname
      exact taken_run s ⟨rest, hline, rfl⟩ hname _
    · exact .unknown _
  · split
    · exact taken_key s line .enter
    · exact taken_retype s line line

/-! ## Between two lines -/

/-- Nothing is under way, and every query is answered. -/
structure Settled (s : Session) : Prop where
  controller : s.controller.Settled
  free : s.supply.withheld = []
  sure : s.supply.Sure

theorem settled_create {config : Config} {palette : Palette} {reply : String → Reply}
    (h : create config palette reply = .ok s) : s.Settled := by
  unfold create Config.provider at h
  cases hcache : Cache.ofCapacity config.cacheSize with
  | error e =>
    rw [hcache] at h
    cases h
  | ok cache =>
    rw [hcache] at h
    cases h
    refine ⟨Controller.settled_new (Cache.ofCapacity_eq hcache).1, ?_, ?_⟩
    · cases he : config.endpoint <;> simp [Config.supply, he]
    · cases he : config.endpoint <;> simp [Config.supply, he, Supply.Sure]

theorem value_refresh (s : Session) :
    s.refresh.value = { s with
      supply := (s.controller.refresh s.supply).value.1
      controller := (s.controller.refresh s.supply).value.2.1 } := by
  simp only [refresh, Noted.value_bind, Noted.value_pure]

theorem Settled.refreshed (h : s.Settled) (event : InputEvent) :
    Controller.Refreshed s.supply (s.handle event).controller
      (s.handle event).refresh.value.supply (s.handle event).refresh.value.controller := by
  have hopen : (s.handle event).controller.editor.key ∉ s.supply.withheld := by
    rw [h.free]
    exact List.not_mem_nil
  rw [value_refresh]
  exact (h.controller.idle.handle event).refresh h.sure hopen

theorem Settled.leads {s' : Session} (h : s.Settled) (hs : s.Leads s') : s'.Settled := by
  cases hs with
  | stays => exact h
  | handled hevent => exact ⟨h.controller.handle hevent, h.free, h.sure⟩
  | fetched event =>
    have hrefreshed := h.refreshed event
    rcases hrefreshed.supply with heq | heq
    · exact ⟨hrefreshed.settled, heq ▸ h.free, heq ▸ h.sure⟩
    · exact ⟨hrefreshed.settled, heq ▸ h.free, heq ▸ h.sure⟩

theorem Settled.takeLine (h : s.Settled) (line : String) : (s.takeLine line).value.2.Settled := by
  have ht := taken s line
  generalize (s.takeLine line).value = r at ht ⊢
  cases ht with
  | helped | listed | failed | unknown | misplaced | quit => exact h
  | shown hs => exact h.leads hs

/-- The sessions that lines lead to. Between two lines the source may change its answers at will. -/
inductive Reached : Session → Prop where
  | created {config : Config} {palette : Palette} {reply : String → Reply} {s : Session}
      (h : create config palette reply = .ok s) : Reached s
  | answering {s : Session} (h : Reached s) (answer : String → Answer) :
      Reached { s with supply := { s.supply with answer } }
  | line {s : Session} (h : Reached s) (line : String) : Reached (s.takeLine line).value.2

theorem Reached.settled (h : Reached s) : s.Settled := by
  induction h with
  | created h => exact settled_create h
  | answering _ _ ih => exact ⟨ih.controller, ih.free, ih.sure⟩
  | line _ line ih => exact ih.takeLine line

/-- Between two lines no refresh and no request is under way and no entry is pending. The cache holds
the outcome for the live key, however few entries it can hold, and the suggestions are those of the
candidates it knows of that key that fit the formula. -/
theorem rests_between_lines (h : Reached s) :
    let c := s.controller
    c.refreshes = [] ∧ c.provider.loads = [] ∧ c.provider.inFlight = [] ∧
      (∀ e ∈ c.provider.cache.entries, e.2.status ≠ .pending) ∧
      (c.editor.key ≠ "" → ∃ e, c.provider.cache.get? c.editor.key = some e ∧
        (e.status = .success ∨ e.status = .error)) ∧
      c.editor.suggestions =
        Suggestion.fitting (c.provider.peek c.editor.key) c.editor.formula := by
  intro c
  have hc : c.Settled := h.settled.controller
  have hp := hc.idle.provider
  refine ⟨hc.idle.refreshes, hp.loads, hp.inFlight, ?_, ?_, ?_⟩
  · intro e he
    exact hp.not_pending (hp.sound.cache.get?_of_mem he)
  · intro hkey
    obtain ⟨e, he⟩ := hc.held hkey
    have hnot := hp.not_pending he
    refine ⟨e, he, ?_⟩
    cases hstatus : e.status with
    | pending => exact absurd hstatus hnot
    | success => exact Or.inl rfl
    | error => exact Or.inr rfl
  · rw [← hc.shown]
    exact hc.idle.valid.suggestions

/-- A cache of one entry, and a source that replies to neither of two texts. -/
theorem rests_between_lines_crowded :
    let reply : String → Reply := fun _ => .refused "timed out"
    let config : Config := { endpoint := some "http://localhost", cacheSize := 1 }
    let s : Session := {
      config
      controller := { provider := { cache := { capacity := 1 } } }
      supply := config.supply reply }
    let t := ((s.takeLine "a").value.2.takeLine "b").value.2
    create config ⟨false⟩ reply = .ok s ∧ t.controller.provider.cache.keys = ["b"] ∧
      t.controller.provider.inFlight = [] ∧
      ∃ e, t.controller.provider.cache.get? "b" = some e ∧
        (e.status = .success ∨ e.status = .error) := by
  intro reply config s t
  have hcreate : create config ⟨false⟩ reply = .ok s := rfl
  have hkey : t.controller.editor.key = "b" := by decide +kernel
  have hkeys : t.controller.provider.cache.keys = ["b"] := by decide +kernel
  have hreached : Reached t := .line (.line (.created hcreate) "a") "b"
  obtain ⟨-, -, hflight, -, hheld, -⟩ := rests_between_lines hreached
  rw [hkey] at hheld
  exact ⟨hcreate, hkeys, hflight, hheld (by decide)⟩

end Formulary.Session

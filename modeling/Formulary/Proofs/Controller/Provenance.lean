import Formulary.Proofs.Controller.Run

/-!
# No suggestions of another query

As long as refreshes are the only ones who ask the provider and hand candidates to the editor, the
editor shows candidates of its own key and of no other: those the source gave for that key in this
run. Hence it shows none while the text is blank.
-/

namespace Formulary.Controller

variable {G : String → List Operand → Prop} {asked : Nat → Option String} {c : Controller}

/-- A move in which nobody but refreshes asks the provider and hands candidates to the editor. -/
def Move.Owned : Move → Prop
  | .apply .. => False
  | .provider (.fetch ..) => False
  | _ => True

/-! ## What refreshes wait for -/

/-- The provider has candidates of the source only, and a refresh that has started waits for its key.
Numbers that are not given away yet have not asked. -/
structure Served (G : String → List Operand → Prop) (asked : Nat → Option String)
    (c : Controller) : Prop where
  provider : c.provider.Served G asked
  refreshes : ∀ r ∈ c.refreshes, asked r.id = r.key
  bounded : ∀ r ∈ c.refreshes, r.id < c.refreshCount
  fresh : ∀ id, c.refreshCount ≤ id → asked id = none

theorem served_new {cache : Cache} (h : cache.entries = []) :
    Served G (fun _ => none) { provider := { cache } } where
  provider := Provider.served_new h
  refreshes := nofun
  bounded := nofun
  fresh := fun _ _ => rfl

theorem Served.of_eq {d : Controller} (h : c.Served G asked) (hprovider : d.provider = c.provider)
    (hrefreshes : d.refreshes = c.refreshes) (hcount : d.refreshCount = c.refreshCount) :
    d.Served G asked where
  provider := hprovider ▸ h.provider
  refreshes := hrefreshes ▸ h.refreshes
  bounded := hcount ▸ hrefreshes ▸ h.bounded
  fresh := hcount ▸ h.fresh

theorem Served.schedule (h : c.Served G asked) : c.schedule.Served G asked where
  provider := h.provider
  refreshes := by
    intro r hr
    rcases List.mem_append.mp hr with hr | hr
    · exact h.refreshes r hr
    · rw [List.mem_singleton.mp hr]
      exact h.fresh _ (Nat.le_refl _)
  bounded := by
    intro r hr
    rcases List.mem_append.mp hr with hr | hr
    · exact Nat.lt_succ_of_lt (h.bounded r hr)
    · rw [List.mem_singleton.mp hr]
      exact Nat.lt_succ_self _
  fresh := fun id hid => h.fresh id (Nat.le_of_succ_le hid)

theorem Served.dismiss (h : c.Served G asked) (id : Nat) : (c.dismiss id).Served G asked where
  provider := h.provider
  refreshes := fun r hr => h.refreshes r (List.mem_of_mem_filter hr)
  bounded := fun r hr => h.bounded r (List.mem_of_mem_filter hr)
  fresh := h.fresh

theorem Served.ask (h : c.Served G asked) (hblank : G "" []) {id : Nat}
    (hr : ⟨id, none⟩ ∈ c.refreshes) :
    (c.ask id).Served G (Function.update asked id (some c.editor.key)) where
  provider := by
    rw [provider_ask]
    refine (h.provider.extend (h.refreshes _ hr) _).move hblank _ ?_ ?_
    · intro waiter query heq
      cases heq
      rw [Function.update_self, Editor.queryKey_key]
    · intro k answer hheard
      cases hheard
  refreshes := by
    rw [refreshes_ask]
    intro r hmem
    obtain ⟨s, hs, rfl⟩ := List.mem_map.mp hmem
    by_cases hid : s.id = id
    · rw [if_pos hid, ← hid, Function.update_self]
    · rw [if_neg hid, Function.update_of_ne hid]
      exact h.refreshes s hs
  bounded := by
    rw [refreshes_ask, refreshCount_ask]
    intro r hmem
    obtain ⟨s, hs, rfl⟩ := List.mem_map.mp hmem
    have hlt := h.bounded s hs
    split <;> exact hlt
  fresh := by
    rw [refreshCount_ask]
    intro n hn
    have hlt : id < c.refreshCount := h.bounded _ hr
    have hne : n ≠ id := by omega
    rw [Function.update_of_ne hne]
    exact h.fresh n hn

theorem Served.provider_move (h : c.Served G asked) (hblank : G "" []) (m : Provider.Move)
    (hm : Move.Owned (.provider m))
    (hheard : ∀ k a, c.heard? (.provider m) = some (k, a) → Cache.IsKey k → G k a.candidates) :
    (c.move (.provider m)).Served G asked where
  provider := by
    refine h.provider.move hblank m ?_ ?_
    · rintro waiter query rfl
      exact hm.elim
    · intro k a ha
      exact hheard k a ha (h.provider.sound.isKey_of_heard? ha)
  refreshes := h.refreshes
  bounded := h.bounded
  fresh := h.fresh

theorem Served.handle (h : c.Served G asked) (live : Bool) (event : InputEvent) :
    (c.handle live event).1.Served G asked := by
  have hprovider := handle_provider c live event
  rcases handle_refreshes c live event with ⟨hrefreshes, hcount⟩ | ⟨-, hrefreshes, hcount⟩
  · exact h.schedule.of_eq hprovider hrefreshes hcount
  · exact h.of_eq hprovider hrefreshes hcount

theorem Served.resume (h : c.Served G asked) (id : Nat) :
    (c.resume id).value.1.Served G asked := by
  have hr := resumed c id
  generalize (c.resume id).value.1 = d at hr ⊢
  cases hr with
  | waiting => exact h
  | cancelled | stale => exact h.dismiss id
  | taken => exact (h.dismiss id).of_eq rfl rfl rfl

theorem Served.move (h : c.Served G asked) (hblank : G "" []) (m : Move) (hm : m.Owned)
    (hheard : ∀ k a, c.heard? m = some (k, a) → Cache.IsKey k → G k a.candidates) :
    ∃ asked', (c.move m).Served G asked' := by
  cases m with
  | input live event => exact ⟨asked, h.handle live event⟩
  | apply key candidates => exact hm.elim
  | schedule => exact ⟨asked, h.schedule⟩
  | provider m => exact ⟨asked, h.provider_move hblank m hm hheard⟩
  | resume id => exact ⟨asked, h.resume id⟩
  | start id =>
    rw [Controller.move]
    rcases start_value c id with heq | ⟨hr, heq⟩
    · exact ⟨asked, by rwa [heq]⟩
    · rw [heq]
      exact ⟨_, (h.ask hblank hr).resume id⟩

/-- What the wait of a refresh brings was given for the key it asked for. -/
theorem Served.good_result (h : c.Served G asked) {id : Nat} {key : String} {outcome : Outcome}
    (hr : ⟨id, some key⟩ ∈ c.refreshes)
    (hresult : c.provider.result? id = some (.answered outcome)) : G key outcome.candidates := by
  obtain ⟨k, hk, hgood⟩ := h.provider.told id outcome (Provider.mem_of_result? hresult)
  rw [h.refreshes _ hr] at hk
  cases hk
  exact hgood

/-! ## What the editor shows -/

/-- The editor has candidates that the source gave for its key, or none. -/
def Shows (G : String → List Operand → Prop) (e : Editor) : Prop :=
  e.candidates = [] ∨ G e.key e.candidates

theorem Shows.of_eq {e e' : Editor} (h : Shows G e) (hkey : e'.key = e.key)
    (hcandidates : e'.candidates = e.candidates) : Shows G e' := by
  rwa [Shows, hkey, hcandidates]

theorem Shows.handle (h : Shows G c.editor) (hserved : c.Served G asked) (live : Bool)
    (event : InputEvent) : Shows G (c.handle live event).1.editor := by
  rw [handle_editor]
  rcases Editor.follows_react c.provider.peek c.editor event with ⟨hkey, hcandidates⟩ | hpeek
  · exact h.of_eq hkey hcandidates
  · have hgood := hserved.provider.peek (c.editor.react c.provider.peek event).editor.key
    rwa [← hpeek, Editor.queryKey_key] at hgood

theorem Shows.resume (h : Shows G c.editor) (hserved : c.Served G asked) (id : Nat) :
    Shows G (c.resume id).value.1.editor := by
  have hr := resumed c id
  generalize (c.resume id).value.1 = d at hr ⊢
  cases hr with
  | waiting | cancelled | stale => exact h
  | taken hr hresult =>
    right
    rw [Editor.key, Editor.install_text, Editor.install_candidates]
    exact hserved.good_result hr hresult

theorem Shows.move (h : Shows G c.editor) (hserved : c.Served G asked) (hblank : G "" [])
    (m : Move) (hm : m.Owned) : Shows G (c.move m).editor := by
  cases m with
  | input live event => exact h.handle hserved live event
  | apply key candidates => exact hm.elim
  | schedule | provider => exact h
  | resume id => exact h.resume hserved id
  | start id =>
    rw [Controller.move]
    rcases start_value c id with heq | ⟨hr, heq⟩
    · rwa [heq]
    · rw [heq]
      exact Shows.resume (by rwa [editor_ask]) (hserved.ask hblank hr) id

/-! ## Runs -/

theorem shows_run {cache : Cache} (hcache : cache.entries = []) (hblank : G "" [])
    {moves : List Move} (hmoves : ∀ m ∈ moves, m.Owned)
    (hheard : ∀ k a, (k, a) ∈ heard { provider := { cache } } moves → Cache.IsKey k →
      G k a.candidates) : Shows G (run { provider := { cache } } moves).editor := by
  -- No state tells what those who are told asked for, so that `asked` is carried along.
  have h : ∃ asked, (run { provider := { cache } } moves).Served G asked ∧
      Shows G (run { provider := { cache } } moves).editor := by
    refine run_induction (motive := fun c => ∃ asked, c.Served G asked ∧ Shows G c.editor)
      ⟨_, served_new hcache, Or.inl rfl⟩ ?_ hmoves hheard
    rintro c m ⟨asked, hserved, hshows⟩ hm hfit
    obtain ⟨asked', hserved'⟩ := hserved.move hblank m hm hfit
    exact ⟨asked', hserved', hshows.move hserved hblank m hm⟩
  obtain ⟨-, -, hshows⟩ := h
  exact hshows

/-- The candidates of a key that a run took in; a blank key has none. -/
def HeardFor (answers : List (String × Answer)) (k : String) (candidates : List Operand) : Prop :=
  (k = "" → candidates = []) ∧
    ∀ x ∈ candidates, ∃ items, (k, .payload (.arr items)) ∈ answers ∧
      x ∈ (Suggestion.ofItems items).value

theorem heardFor_of_mem {answers : List (String × Answer)} {k : String} {a : Answer}
    (ha : (k, a) ∈ answers) (hk : Cache.IsKey k) : HeardFor answers k a.candidates := by
  refine ⟨fun hblank => absurd hblank hk.1, ?_⟩
  intro x hx
  obtain ⟨items, rfl, hmem⟩ := Answer.exists_items_of_mem_candidates hx
  exact ⟨items, ha, hmem⟩

theorem candidates_heard {cache : Cache} (hcache : cache.entries = []) {moves : List Move}
    (hmoves : ∀ m ∈ moves, m.Owned) :
    HeardFor (heard { provider := { cache } } moves) (run { provider := { cache } } moves).editor.key
      (run { provider := { cache } } moves).editor.candidates := by
  have hnone (k : String) : HeardFor (heard { provider := { cache } } moves) k [] :=
    ⟨fun _ => rfl, nofun⟩
  rcases shows_run hcache (hnone "") hmoves fun k a ha hk => heardFor_of_mem ha hk with h | h
  · rw [h]
    exact hnone _
  · exact h

theorem suggestions_of_blank {cache : Cache} (hcache : cache.entries = []) {moves : List Move}
    (hmoves : ∀ m ∈ moves, m.Owned) (hkey : (run { provider := { cache } } moves).editor.key = "") :
    (run { provider := { cache } } moves).editor.suggestions = [] := by
  have h := (candidates_heard hcache hmoves).1 hkey
  have hvalid : (run { provider := { cache } } moves).editor.Valid := valid_run Editor.valid_new moves
  rw [hvalid.suggestions, h]
  exact List.subset_nil.mp (Suggestion.fitting_subset [] _)

theorem suggestions_of_closed {cache : Cache} (hcache : cache.entries = []) {moves : List Move}
    (hmoves : ∀ m ∈ moves, m.Owned) (live : Bool) {event : InputEvent}
    (hevent : (run { provider := { cache } } moves).editor.Closes event) :
    ((run { provider := { cache } } moves).move (.input live event)).editor.state = .idle ∧
      ((run { provider := { cache } } moves).move (.input live event)).editor.suggestions = [] := by
  have htext : ((run { provider := { cache } } moves).move (.input live event)).editor.text = "" := by
    rw [move, handle_editor]
    exact hevent.text _
  refine ⟨by simp [Editor.state, htext], ?_⟩
  have hmoves' : ∀ m ∈ moves ++ [.input live event], m.Owned := by
    intro m hm
    rcases List.mem_append.mp hm with hm | hm
    · exact hmoves m hm
    · rw [List.mem_singleton.mp hm]
      trivial
  have h := suggestions_of_blank hcache hmoves'
  rw [run_concat] at h
  exact h (by rw [Editor.key, htext]; rfl)

/-- Whatever is shown was given for the live key by the source in this run. Nothing is shown while the
text is blank, and the text is empty after every commit and every escape. -/
theorem suggestions_heard {size : Int} {cache : Cache} (hcache : Cache.ofCapacity size = .ok cache)
    {moves : List Move} (hmoves : ∀ m ∈ moves, m.Owned) :
    let c := run { provider := { cache } } moves
    (∀ x ∈ c.editor.suggestions, ∃ items,
        (c.editor.key, .payload (.arr items)) ∈ heard { provider := { cache } } moves ∧
          x ∈ (Suggestion.ofItems items).value) ∧
      (c.editor.key = "" → c.editor.suggestions = [] ∧ c.editor.highlighted = none) ∧
      (c.editor.state = .suggesting → c.editor.key ≠ "") ∧
      ∀ live event, c.editor.Closes event →
        (c.move (.input live event)).editor.state = .idle ∧
          (c.move (.input live event)).editor.suggestions = [] := by
  intro c
  have hnil := (Cache.ofCapacity_eq hcache).1
  have hvalid : c.editor.Valid := valid_run Editor.valid_new moves
  have hblank : c.editor.key = "" → c.editor.suggestions = [] := suggestions_of_blank hnil hmoves
  refine ⟨?_, ?_, ?_, fun live event => suggestions_of_closed hnil hmoves live⟩
  · intro x hx
    rw [hvalid.suggestions] at hx
    exact (candidates_heard hnil hmoves).2 x (Suggestion.fitting_subset _ _ hx)
  · intro hkey
    have hnone := hblank hkey
    refine ⟨hnone, ?_⟩
    rw [Option.eq_none_iff_forall_not_mem]
    intro i hi
    have hlt := hvalid.highlighted i hi
    rw [hnone] at hlt
    exact Nat.not_lt_zero i hlt
  · intro hstate hkey
    rw [Editor.state, hblank hkey] at hstate
    split at hstate <;> cases hstate

/-- The answer of a source that offers the query itself. -/
def echo (query : String) : Answer := .payload (.arr [.obj [("name", .str query)]])

/-- Two queries whose answers come in the wrong order. -/
def crossedMoves : List Move :=
  [.input true (.text "a"), .start 0, .provider (.call 0), .input true (.text "b "), .start 1,
    .provider (.call 1), .provider (.receive 1 (echo "b")), .provider (.settle 1), .resume 1,
    .provider (.receive 0 (echo "a")), .provider (.settle 0), .resume 0]

theorem suggestions_heard_crossed :
    (run { provider := { cache := { capacity := 1 } } } crossedMoves).editor.suggestions =
        [{ name := "b" }] ∧
      ∃ items, ("b", .payload (.arr items)) ∈
          heard { provider := { cache := { capacity := 1 } } } crossedMoves ∧
        { name := "b" } ∈ (Suggestion.ofItems items).value := by
  have hcache : Cache.ofCapacity 1 = .ok { capacity := 1 } := rfl
  have hmoves : ∀ m ∈ crossedMoves, m.Owned := by simp [crossedMoves, Move.Owned]
  have hshown : (run { provider := { cache := { capacity := 1 } } }
      crossedMoves).editor.suggestions = [{ name := "b" }] := by decide +kernel
  have hkey : (run { provider := { cache := { capacity := 1 } } }
      crossedMoves).editor.key = "b" := by decide +kernel
  have h := (suggestions_heard hcache hmoves).1 { name := "b" } (by rw [hshown]; simp)
  rw [hkey] at h
  exact ⟨hshown, h⟩

end Formulary.Controller

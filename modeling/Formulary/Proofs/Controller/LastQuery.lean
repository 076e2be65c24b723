import Formulary.Proofs.Controller.Provenance
import Formulary.Proofs.Controller.Refresh

/-!
# The last query wins

In a loop every new text schedules a refresh. As long as the editor does not show what the source
answers to the live key, some refresh will ask for that key or waits for it. So once all refreshes are
done the suggestions are those of the last query, in whatever order the answers came in.
-/

namespace Formulary.Controller

variable {answer : String → Answer} {asked : Nat → Option String} {c : Controller}

/-- A move in a loop, where refreshes are the only waiters and wait until they are told. -/
def Move.Looped : Move → Prop
  | .input live _ => live = true
  | .apply .. => False
  | .provider (.fetch ..) => False
  | .provider (.cancel ..) => False
  | _ => True

theorem Move.Looped.owned {m : Move} (h : m.Looped) : m.Owned := by
  cases m with
  | input | schedule | start | resume => trivial
  | apply => exact h
  | provider m =>
    cases m with
    | fetch => exact h
    | cancel | invalidate | call | receive | settle => trivial

/-- The candidates of a key; a blank key is never asked for. -/
def decoded (answer : String → Answer) (k : String) : List Operand :=
  if k = "" then [] else (answer k).candidates

/-- A refresh is going to ask, or waits for the live key. -/
def Awaits (c : Controller) : Prop :=
  ∃ r ∈ c.refreshes, r.key = none ∨ r.key = some c.editor.key

/-- The editor has the candidates of the live key, or they are on their way. -/
def Current (answer : String → Answer) (c : Controller) : Prop :=
  c.editor.candidates = decoded answer c.editor.key ∨ c.Awaits

/-! ## Waits end with an outcome -/

/-- No wait has been given up. -/
def Patient (c : Controller) : Prop := ∀ w, (w, .cancelled) ∉ c.provider.results

theorem Patient.ask (h : c.Patient) (id : Nat) : (c.ask id).Patient :=
  fun w hw => h w (mem_cancelled_ask hw)

theorem Patient.move (h : c.Patient) (m : Move) (hm : m.Looped) : (c.move m).Patient := by
  intro w hw
  rcases mem_cancelled_move hw with hw | rfl
  · exact h w hw
  · exact hm

theorem Patient.result_ne (h : c.Patient) (id : Nat) :
    c.provider.result? id ≠ some .cancelled :=
  fun hresult => h id (Provider.mem_of_result? hresult)

/-! ## The live key is shown or awaited -/

theorem awaits_schedule (c : Controller) : c.schedule.Awaits :=
  ⟨⟨c.refreshCount, none⟩, by simp [schedule], Or.inl rfl⟩

theorem Awaits.ask (h : c.Awaits) (id : Nat) : (c.ask id).Awaits := by
  obtain ⟨r, hr, hkey⟩ := h
  rw [Awaits, refreshes_ask, editor_ask]
  refine ⟨_, List.mem_map_of_mem hr, ?_⟩
  by_cases hid : r.id = id
  · rw [if_pos hid]
    exact Or.inr rfl
  · rwa [if_neg hid]

theorem Current.ask (h : c.Current answer) (id : Nat) : (c.ask id).Current answer := by
  rcases h with h | h
  · left
    rwa [editor_ask]
  · exact Or.inr (h.ask id)

/-- A refresh that ends with a key that is not live any more was not the one to wait for. -/
theorem Current.dismiss (h : c.Current answer) {G : String → List Operand → Prop}
    (hserved : c.Served G asked) {id : Nat} {key : String} (hr : ⟨id, some key⟩ ∈ c.refreshes)
    (hkey : key ≠ c.editor.key) : (c.dismiss id).Current answer := by
  rcases h with h | ⟨r, hmem, hawaits⟩
  · exact Or.inl h
  · refine Or.inr ⟨r, List.mem_filter.mpr ⟨hmem, ?_⟩, hawaits⟩
    -- The refresh that the editor waits for has another key, hence another number.
    have hne : r.id ≠ id := by
      intro hid
      have hask := hserved.refreshes r hmem
      rw [hid, hserved.refreshes _ hr] at hask
      rw [← hask] at hawaits
      rcases hawaits with hnone | hlive
      · cases hnone
      · exact hkey (Option.some.inj hlive)
    simpa using hne

theorem Current.handle (h : c.Current answer) (event : InputEvent) :
    (c.handle true event).1.Current answer := by
  rcases handle_refreshes c true event with ⟨hrefreshes, -⟩ | ⟨hretyped, hrefreshes, -⟩
  · right
    obtain ⟨r, hr, hkey⟩ : ∃ r ∈ c.schedule.refreshes, r.key = none :=
      ⟨⟨c.refreshCount, none⟩, by simp [schedule], rfl⟩
    exact ⟨r, hrefreshes ▸ hr, Or.inl hkey⟩
  · have hsame := Editor.react_of_not_retyped c.provider.peek c.editor event (by simpa using hretyped)
    rw [← handle_editor c true event] at hsame
    rcases h with h | ⟨r, hr, hkey⟩
    · left
      rw [hsame.1, hsame.2, h]
    · right
      rw [Awaits, hrefreshes, hsame.1]
      exact ⟨r, hr, hkey⟩

theorem Current.resume (h : c.Current answer)
    (hserved : c.Served (fun k candidates => candidates = decoded answer k) asked)
    (hpatient : c.Patient) (id : Nat) : (c.resume id).value.1.Current answer := by
  have hr := resumed c id
  generalize (c.resume id).value.1 = d at hr ⊢
  cases hr with
  | waiting => exact h
  | cancelled hresult => exact absurd hresult (hpatient.result_ne id)
  | stale hr hkey => exact h.dismiss hserved hr hkey
  | taken hr hresult =>
    left
    rw [Editor.key, Editor.install_text, Editor.install_candidates]
    exact hserved.good_result hr hresult

theorem Current.move (h : c.Current answer)
    (hserved : c.Served (fun k candidates => candidates = decoded answer k) asked)
    (hpatient : c.Patient) (m : Move) (hm : m.Looped) : (c.move m).Current answer := by
  cases m with
  | input live event =>
    obtain rfl : live = true := hm
    exact h.handle event
  | apply key candidates => exact hm.elim
  | schedule => exact Or.inr (awaits_schedule c)
  | provider m => exact h
  | resume id => exact h.resume hserved hpatient id
  | start id =>
    rw [Controller.move]
    rcases start_value c id with heq | ⟨hr, heq⟩
    · rwa [heq]
    · rw [heq]
      exact (h.ask id).resume (hserved.ask (by simp [decoded]) hr) (hpatient.ask id) id

theorem current_run {cache : Cache} (hcache : cache.entries = []) {moves : List Move}
    (hmoves : ∀ m ∈ moves, m.Looped)
    (hanswer : ∀ k a, (k, a) ∈ heard { provider := { cache } } moves → a = answer k) :
    (run { provider := { cache } } moves).Current answer := by
  have hblank : [] = decoded answer "" := by simp [decoded]
  have h : ∃ asked, (run { provider := { cache } } moves).Served
        (fun k candidates => candidates = decoded answer k) asked ∧
      (run { provider := { cache } } moves).Patient ∧
      (run { provider := { cache } } moves).Current answer := by
    refine run_induction (motive := fun c => ∃ asked,
        c.Served (fun k candidates => candidates = decoded answer k) asked ∧ c.Patient ∧
          c.Current answer)
      ⟨_, served_new hcache, nofun, Or.inl hblank⟩ ?_ hmoves hanswer
    rintro c m ⟨asked, hserved, hpatient, hcurrent⟩ hm hfit
    obtain ⟨asked', hserved'⟩ := hserved.move hblank m hm.owned (by
      intro k a ha hk
      rw [hfit k a ha, decoded, if_neg hk.1])
    exact ⟨asked', hserved', hpatient.move m hm, hcurrent.move hserved hpatient m hm⟩
  obtain ⟨-, -, -, hcurrent⟩ := h
  exact hcurrent

/-- If the source always answers a query in the same way, then once no refresh is left the suggestions
are those that fit of the answer to the last query. -/
theorem suggestions_of_last_query {size : Int} {cache : Cache}
    (hcache : Cache.ofCapacity size = .ok cache) {moves : List Move}
    (hmoves : ∀ m ∈ moves, m.Looped)
    (hanswer : ∀ k a, (k, a) ∈ heard { provider := { cache } } moves → a = answer k)
    (hdone : (run { provider := { cache } } moves).refreshes = []) :
    let e := (run { provider := { cache } } moves).editor
    e.suggestions =
      Suggestion.fitting (if e.key = "" then [] else (answer e.key).candidates) e.formula := by
  intro e
  have hvalid : e.Valid := valid_run Editor.valid_new moves
  rcases current_run (Cache.ofCapacity_eq hcache).1 hmoves hanswer with h | ⟨r, hr, -⟩
  · rw [hvalid.suggestions]
    exact congrArg (Suggestion.fitting · e.formula) h
  · rw [hdone] at hr
    cases hr

theorem suggestions_of_last_query_crossed :
    (heard { provider := { cache := { capacity := 1 } } } crossedMoves).map Prod.fst = ["b", "a"] ∧
      (run { provider := { cache := { capacity := 1 } } } crossedMoves).editor.suggestions =
        (echo "b").candidates := by
  have hcache : Cache.ofCapacity 1 = .ok { capacity := 1 } := rfl
  have hmoves : ∀ m ∈ crossedMoves, m.Looped := by simp [crossedMoves, Move.Looped]
  have hheard : heard { provider := { cache := { capacity := 1 } } } crossedMoves =
      [("b", echo "b"), ("a", echo "a")] := rfl
  have hanswer : ∀ k a,
      (k, a) ∈ heard { provider := { cache := { capacity := 1 } } } crossedMoves → a = echo k := by
    intro k a ha
    rw [hheard] at ha
    rcases List.mem_cons.mp ha with heq | ha
    · cases heq
      rfl
    · cases List.mem_singleton.mp ha
      rfl
  have hdone : (run { provider := { cache := { capacity := 1 } } } crossedMoves).refreshes = [] := by
    decide +kernel
  have h := suggestions_of_last_query hcache hmoves hanswer hdone
  refine ⟨by rw [hheard]; rfl, h.trans ?_⟩
  decide +kernel

end Formulary.Controller

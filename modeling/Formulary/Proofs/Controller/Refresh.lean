import Formulary.Proofs.Controller.Run
import Formulary.Proofs.Provider.Waiters

/-!
# How refreshes end

A refresh has a number of its own, and ends as soon as its wait is over: whatever the source came up
with, it tells whether its candidates were taken. Only a refresh that is given up ends without that.
-/

namespace Formulary.Controller

variable {c : Controller} {id w : Nat} {key : String}

/-- No two refreshes have one number, and the next number is free. -/
structure Numbered (c : Controller) : Prop where
  nodup : (c.refreshes.map Refresh.id).Nodup
  bounded : ∀ r ∈ c.refreshes, r.id < c.refreshCount

theorem Numbered.find? (h : c.Numbered) {r : Refresh} (hr : r ∈ c.refreshes) :
    c.refreshes.find? (fun s => s.id = r.id) = some r := by
  cases hf : c.refreshes.find? fun s => s.id = r.id with
  | none =>
    have hne := List.find?_eq_none.mp hf r hr
    simp at hne
  | some s =>
    obtain ⟨hs, hid⟩ := mem_of_find? hf
    rw [List.inj_on_of_nodup_map h.nodup hs hr hid]

theorem Numbered.of_eq {d : Controller} (h : c.Numbered) (hrefreshes : d.refreshes = c.refreshes)
    (hcount : d.refreshCount = c.refreshCount) : d.Numbered :=
  ⟨hrefreshes ▸ h.nodup, hcount ▸ hrefreshes ▸ h.bounded⟩

theorem Numbered.schedule (h : c.Numbered) : c.schedule.Numbered where
  nodup := by
    rw [Controller.schedule, List.map_append, List.nodup_append]
    refine ⟨h.nodup, by simp, ?_⟩
    intro a ha b hb hab
    obtain ⟨r, hr, rfl⟩ := List.mem_map.mp ha
    have hlt := h.bounded r hr
    have hb' : b = c.refreshCount := by simpa using hb
    omega
  bounded := by
    intro r hr
    rcases List.mem_append.mp hr with hr | hr
    · exact Nat.lt_succ_of_lt (h.bounded r hr)
    · rw [List.mem_singleton.mp hr]
      exact Nat.lt_succ_self _

theorem Numbered.dismiss (h : c.Numbered) (id : Nat) : (c.dismiss id).Numbered where
  nodup := h.nodup.sublist (List.filter_sublist.map _)
  bounded := fun r hr => h.bounded r (List.mem_of_mem_filter hr)

theorem Numbered.ask (h : c.Numbered) (id : Nat) : (c.ask id).Numbered where
  nodup := by
    have hids : (c.ask id).refreshes.map Refresh.id = c.refreshes.map Refresh.id := by
      rw [refreshes_ask, List.map_map]
      apply List.map_congr_left
      intro r _
      by_cases hid : r.id = id <;> simp [hid]
    rw [hids]
    exact h.nodup
  bounded := by
    rw [refreshes_ask, refreshCount_ask]
    intro r hr
    obtain ⟨s, hs, rfl⟩ := List.mem_map.mp hr
    have hlt := h.bounded s hs
    split <;> exact hlt

theorem Numbered.resume (h : c.Numbered) (id : Nat) : (c.resume id).value.1.Numbered := by
  have hr := resumed c id
  generalize (c.resume id).value.1 = d at hr ⊢
  cases hr with
  | waiting => exact h
  | cancelled | stale => exact h.dismiss id
  | taken => exact (h.dismiss id).of_eq rfl rfl

theorem Numbered.move (h : c.Numbered) (m : Move) : (c.move m).Numbered := by
  cases m with
  | input live event =>
    rcases handle_refreshes c live event with ⟨hrefreshes, hcount⟩ | ⟨-, hrefreshes, hcount⟩
    · exact h.schedule.of_eq hrefreshes hcount
    · exact h.of_eq hrefreshes hcount
  | apply key candidates =>
    rw [Controller.move, apply_value]
    split <;> exact h.of_eq rfl rfl
  | schedule => exact h.schedule
  | provider m => exact h.of_eq rfl rfl
  | resume id => exact h.resume id
  | start id =>
    rw [Controller.move]
    rcases start_value c id with heq | ⟨-, heq⟩
    · rwa [heq]
    · rw [heq]
      exact (h.ask id).resume id

theorem Numbered.run (h : c.Numbered) (moves : List Move) : (c.run moves).Numbered := by
  induction moves generalizing c with
  | nil => exact h
  | cons m rest ih => exact ih (h.move m)

theorem numbered_new (provider : Provider) : Numbered { provider } := ⟨List.nodup_nil, nofun⟩

/-! ## The provider in a run -/

theorem provider_resume (c : Controller) (id : Nat) :
    (c.resume id).value.1.provider = c.provider := by
  have hr := resumed c id
  generalize (c.resume id).value.1 = d at hr ⊢
  cases hr <;> rfl

/-- The provider makes moves of its own, and each refresh that starts asks it. -/
theorem provider_move (c : Controller) (m : Move) :
    (c.move m).provider = c.provider ∨
      ∃ n, (c.move m).provider = c.provider.move n ∧
        (m = .provider n ∨ ∃ id, n = .fetch id c.editor.key) := by
  cases m with
  | input live event => exact Or.inl (handle_provider c live event)
  | apply key candidates =>
    left
    rw [move, apply_value]
    split <;> rfl
  | schedule => exact Or.inl rfl
  | provider n => exact Or.inr ⟨n, rfl, Or.inl rfl⟩
  | resume id => exact Or.inl (provider_resume c id)
  | start id =>
    rw [move]
    rcases start_value c id with heq | ⟨-, heq⟩
    · exact Or.inl (by rw [heq])
    · rw [heq, provider_resume, provider_ask]
      exact Or.inr ⟨_, rfl, Or.inr ⟨id, rfl⟩⟩

/-- What every move of a provider keeps, every move of a controller keeps of its provider. -/
theorem provider_move_induction {motive : Provider → Prop} (start : motive c.provider)
    (step : ∀ p n, motive p → motive (p.move n)) (m : Move) : motive (c.move m).provider := by
  rcases provider_move c m with heq | ⟨n, heq, -⟩
  · rwa [heq]
  · rw [heq]
    exact step c.provider n start

theorem provider_run_induction {motive : Provider → Prop} (start : motive c.provider)
    (step : ∀ p n, motive p → motive (p.move n)) (moves : List Move) :
    motive (c.run moves).provider := by
  induction moves generalizing c with
  | nil => exact start
  | cons m rest ih => exact ih (provider_move_induction start step m)

theorem sound_run (h : c.provider.Sound) (moves : List Move) : (c.run moves).provider.Sound :=
  provider_run_induction h (fun _ n hp => hp.move n) moves

/-! ## Waits that are given up -/

/-- A waiter that asks is not given up by that. -/
theorem mem_cancelled_ask (hw : (w, .cancelled) ∈ (c.ask id).provider.results) :
    (w, .cancelled) ∈ c.provider.results := by
  rw [provider_ask] at hw
  rcases Provider.mem_results_move hw with hw | hends
  · exact hw
  · cases hends

theorem mem_cancelled_move {m : Move} (hw : (w, .cancelled) ∈ (c.move m).provider.results) :
    (w, .cancelled) ∈ c.provider.results ∨ m = .provider (.cancel w) := by
  rcases provider_move c m with heq | ⟨n, heq, hn⟩
  · rw [heq] at hw
    exact Or.inl hw
  · rw [heq] at hw
    rcases Provider.mem_results_move hw with hw | hends
    · exact Or.inl hw
    · cases hends
      rcases hn with hm | ⟨id, hask⟩
      · exact Or.inr hm
      · cases hask

theorem not_cancelled_run (h : (w, .cancelled) ∉ c.provider.results) {moves : List Move}
    (hmoves : .provider (.cancel w) ∉ moves) : (w, .cancelled) ∉ (c.run moves).provider.results := by
  induction moves generalizing c with
  | nil => exact h
  | cons m rest ih =>
    refine ih ?_ fun hmem => hmoves (List.mem_cons_of_mem m hmem)
    intro hw
    rcases mem_cancelled_move hw with hw | rfl
    · exact h hw
    · exact hmoves List.mem_cons_self

/-! ## Verdicts -/

theorem apply_verdict (c : Controller) (key : String) (candidates : List Operand) :
    (c.apply key candidates).value.2 = decide (key = c.editor.key) := by
  by_cases h : key = c.editor.key <;> simp [apply, Editor.apply, h]

theorem resume_of_waiting (hresult : c.provider.result? id = none) :
    (c.resume id).value = (c, none) := by
  unfold resume
  split
  · rw [hresult]
    rfl
  · rfl

theorem resume_of_answered (h : c.Numbered) (hr : ⟨id, some key⟩ ∈ c.refreshes) {outcome : Outcome}
    (hresult : c.provider.result? id = some (.answered outcome)) :
    (c.resume id).value.2 = some (decide (key = c.editor.key)) ∧
      (c.resume id).value.1.editor =
        if key = c.editor.key then c.editor.install outcome.candidates else c.editor := by
  have hf := h.find? hr
  have hvalue : (c.resume id).value =
      (((c.dismiss id).apply key outcome.candidates).value.1,
        some ((c.dismiss id).apply key outcome.candidates).value.2) := by
    simp [resume, hf, hresult, value_candidates?, dismiss]
  rw [hvalue, apply_verdict, apply_value, editor_dismiss]
  refine ⟨rfl, ?_⟩
  by_cases hkey : key = c.editor.key
  · rw [if_pos hkey, if_pos hkey]
  · rw [if_neg hkey, if_neg hkey, editor_dismiss]

/-- A refresh that is not given up tells whether its candidates were taken as soon as its wait is
over. -/
theorem resume_verdict (h : c.Numbered) (hr : ⟨id, some key⟩ ∈ c.refreshes)
    (hw : (id, .cancelled) ∉ c.provider.results) :
    (c.resume id).value.2 = (c.provider.result? id).map fun _ => decide (key = c.editor.key) := by
  cases hresult : c.provider.result? id with
  | none =>
    have hf := h.find? hr
    simp [resume, hf, hresult]
  | some r =>
    cases r with
    | answered outcome => exact (resume_of_answered h hr hresult).1
    | cancelled => exact absurd (Provider.mem_of_result? hresult) hw

theorem start_of_scheduled (h : c.Numbered) (hr : ⟨id, none⟩ ∈ c.refreshes) :
    (c.start id).value = ((c.ask id).resume id).value := by
  have hf := h.find? hr
  simp only [start, hf, ask, Noted.value_bind]

theorem mem_refreshes_ask (hr : ⟨id, none⟩ ∈ c.refreshes) :
    ⟨id, some c.editor.key⟩ ∈ (c.ask id).refreshes := by
  have hmem := List.mem_map_of_mem
    (f := fun r : Refresh => if r.id = id then { r with key := some c.editor.key } else r) hr
  rwa [if_pos rfl, ← refreshes_ask] at hmem

/-- A refresh that need not wait has its candidates taken when it starts. -/
theorem start_verdict (h : c.Numbered) (hr : ⟨id, none⟩ ∈ c.refreshes)
    (hw : (id, .cancelled) ∉ c.provider.results) :
    (c.start id).value.2 = ((c.ask id).provider.result? id).map fun _ => true := by
  have hask : (id, .cancelled) ∉ (c.ask id).provider.results := fun hw' => hw (mem_cancelled_ask hw')
  rw [start_of_scheduled h hr, resume_verdict (h.ask id) (mem_refreshes_ask hr) hask, editor_ask]
  simp

end Formulary.Controller

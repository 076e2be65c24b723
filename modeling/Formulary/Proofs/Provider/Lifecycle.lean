import Formulary.Proofs.Provider.KeyState

/-!
# The life of an entry

How far the load of a key has come tells what the entry of the key can be. It is pending exactly while
the call of the load is out, and only a success holds candidates. So whatever a peek shows is held for
good, and whoever asks for it then is told the same at once.
-/

namespace Formulary.Provider

variable {p : Provider} {k query : String}

/-- The entry of a key goes with its load. -/
structure KeyState.Lives (s : KeyState) : Prop where
  scheduled : s.stage = some .scheduled → ∀ e, s.entry = some e → e.status ≠ .success
  calling : s.stage = some .calling → ∀ e, s.entry = some e → e.status = .pending
  pending : ∀ e, s.entry = some e → e.status = .pending → s.stage = some .calling
  bare : ∀ e, s.entry = some e → e.status ≠ .success → e.data = []

theorem data_pendingEntry {entry : Option CacheEntry}
    (h : ∀ e, entry = some e → e.data = []) : (pendingEntry entry).data = [] := by
  cases entry with
  | none => rfl
  | some e => exact h e rfl

theorem status_entryOf_ne_pending (outcome : Outcome) : (entryOf outcome).status ≠ .pending := by
  cases outcome <;> simp [entryOf]

theorem data_entryOf {outcome : Outcome} (h : (entryOf outcome).status ≠ .success) :
    (entryOf outcome).data = [] := by
  cases outcome with
  | ok candidates => exact absurd rfl h
  | error e => rfl

theorem KeyState.Lives.next {s s' : KeyState} {event : KeyEvent} (h : s.Lives)
    (hnext : Next k event s s') : s'.Lives := by
  cases hnext with
  | nothing => exact h
  | scheduled hnot =>
    refine ⟨fun _ => hnot, nofun, ?_, h.bare⟩
    intro e he hpending
    cases h.pending e he hpending
  | asked entry =>
    -- A load is scheduled only without a success, so that no candidates are known that could stay.
    have hbare : ∀ e, entry = some e → e.data = [] :=
      fun e he => h.bare e he (h.scheduled rfl e he)
    refine ⟨nofun, ?_, fun _ _ _ => rfl, ?_⟩
    · rintro _ _ ⟨⟩
      rfl
    · rintro _ ⟨⟩ _
      exact data_pendingEntry hbare
  | heard entry answer =>
    refine ⟨nofun, nofun, ?_, ?_⟩
    · rintro _ ⟨⟩ hpending
      exact absurd hpending (status_entryOf_ne_pending _)
    · rintro _ ⟨⟩ hnot
      exact data_entryOf hnot
  | left outcome entry =>
    refine ⟨nofun, nofun, ?_, h.bare⟩
    intro e he hpending
    cases h.pending e he hpending
  | lost => exact ⟨fun _ => nofun, fun _ => nofun, nofun, nofun⟩

theorem lives_run (h : p.Sound) (hlives : (p.keyState k).Lives) (moves : List Move) :
    ((p.run moves).keyState k).Lives := by
  induction moves using List.reverseRecOn with
  | nil => exact hlives
  | append_singleton moves m ih =>
    obtain ⟨event, hat⟩ := Step.exists_at ⟨p.run moves, m⟩ (h.run moves) k
    rw [run_concat]
    exact ih.next hat.next

theorem lives_new {cache : Cache} (h : cache.entries = []) (k : String) :
    (keyState { cache } k).Lives := by
  constructor <;> simp [keyState, stage?, h]

/-- While the call of a load is out, the entry of its key is pending or lost. -/
theorem pending_of_calling (h : p.Sound) {l : Load} (hlives : (p.keyState l.key).Lives)
    (hl : l ∈ p.loads) (hstage : l.stage = .calling) {e : CacheEntry}
    (he : p.cache.get? l.key = some e) : e.status = .pending := by
  have hcalling : p.stage? l.key = some .calling := hstage ▸ h.stage?_of_mem hl
  rw [Cache.get?, (h.isKey_load hl).2] at he
  exact hlives.calling hcalling e he

/-! ## Peeking -/

end Formulary.Provider

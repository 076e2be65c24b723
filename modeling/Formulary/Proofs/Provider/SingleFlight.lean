import Formulary.Proofs.Provider.KeyState

/-!
# Single flight

Along every run of a provider the source is called for a key at most once at a time, and it is called
for the key again only if the load before that failed or its entry got lost after it was stored. Both
follow from what happens to the key from one step to the next; the table and the cache do not show up
any more.
-/

namespace Formulary.Provider

variable {p : Provider} {k : String}

/-- The number of calls of the source for a key. -/
def asks (steps : List Step) (k : String) : Nat := steps.countP fun s => s.asked? = some k

def answers (steps : List Step) (k : String) : Nat :=
  steps.countP fun s => s.heard?.any (·.1 = k)

def Step.Loses (s : Step) (k : String) : Prop :=
  s.before.cache.contains k = true ∧ s.after.cache.contains k = false

/-- The load of a key has come to its end and is worth nothing any more: it failed, or its entry was
lost after it was stored, because the key was dropped or had to make room for another one. -/
def Lapsed (k : String) (steps : List Step) : Prop :=
  ∃ earlier heard later answer, steps = earlier ++ heard :: later ∧
    heard.heard? = some (k, answer) ∧
      ((∃ e, (answer.outcome k).value = .error e) ∨
        ∃ s ∈ later, s.Loses k ∧ (s.Invalidates k ∨ s.Evicts k))

/-! ## Steps of a run -/

theorem sound_of_mem_steps (h : p.Sound) {moves : List Move} {s : Step} (hs : s ∈ p.steps moves) :
    s.before.Sound := by
  induction moves generalizing p with
  | nil => cases hs
  | cons m rest ih =>
    rcases List.mem_cons.mp hs with rfl | hs
    · exact h
    · exact ih (h.move m) hs

theorem steps_eq_append {moves : List Move} {xs ys : List Step} (h : p.steps moves = xs ++ ys) :
    ∃ a b, moves = a ++ b ∧ p.steps a = xs ∧ (p.run a).steps b = ys := by
  induction xs generalizing p moves with
  | nil => exact ⟨[], moves, rfl, rfl, h⟩
  | cons x xs ih =>
    cases moves with
    | nil => cases h
    | cons m rest =>
      obtain ⟨rfl, hrest⟩ := List.cons.inj h
      obtain ⟨a, b, rfl, ha, hb⟩ := ih hrest
      exact ⟨m :: a, b, rfl, by rw [steps, ha], hb⟩

theorem steps_eq_cons {moves : List Move} {s : Step} {ys : List Step} (h : p.steps moves = s :: ys) :
    s.before = p ∧ ∃ rest, s.after.steps rest = ys := by
  cases moves with
  | nil => cases h
  | cons m rest =>
    obtain ⟨rfl, hrest⟩ := List.cons.inj h
    exact ⟨rfl, rest, hrest⟩

theorem Step.load_of_asked? {s : Step} (h : s.asked? = some k) :
    ∃ id l, s.before.load? id = some l ∧ l.key = k := by
  unfold asked? at h
  split at h
  · rename_i id _
    split at h
    · rename_i hl
      cases h
      exact ⟨id, _, hl, rfl⟩
    · cases h
  · cases h

theorem Sound.isKey_of_asked? {s : Step} (h : s.before.Sound) (hs : s.asked? = some k) :
    Cache.IsKey k := by
  obtain ⟨id, l, hl, rfl⟩ := Step.load_of_asked? hs
  exact h.isKey_load (mem_of_load? hl).1

/-! ## One call at a time -/

def KeyState.callsOut (s : KeyState) : Nat :=
  match s.stage with
  | some .calling => 1
  | _ => 0

theorem Step.At.asks_eq {s : Step} {event : KeyEvent} (h : s.At k event) :
    asks [s] k = match event with
      | .asked => 1
      | _ => 0 := by
  have hasked := h.asked
  rw [asks, List.countP_singleton]
  cases event <;> simp_all

theorem Step.At.answers_eq {s : Step} {event : KeyEvent} (h : s.At k event) :
    answers [s] k = match event with
      | .heard _ => 1
      | _ => 0 := by
  have hheard := h.heard
  rw [answers, List.countP_singleton]
  cases event with
  | heard answer => simp [(hheard answer).mp rfl]
  | nothing | scheduled | asked | left | lost =>
    rw [if_neg]
    intro hany
    obtain ⟨⟨q, a⟩, ha, hq⟩ := (Option.any_eq_true _ _).mp hany
    obtain rfl : q = k := by simpa using hq
    exact nomatch (hheard a).mpr ha

theorem Step.At.callsOut_eq {s : Step} {event : KeyEvent} (h : s.At k event) :
    (s.before.keyState k).callsOut + asks [s] k =
      (s.after.keyState k).callsOut + answers [s] k := by
  rw [h.asks_eq, h.answers_eq]
  have hnext := h.next
  generalize s.before.keyState k = a at hnext
  generalize s.after.keyState k = b at hnext
  cases hnext <;> rfl

theorem asks_eq (h : p.Sound) (hidle : p.stage? k = none) (moves : List Move) :
    asks (p.steps moves) k = answers (p.steps moves) k + ((p.run moves).keyState k).callsOut := by
  induction moves using List.reverseRecOn with
  | nil => simp [steps, asks, answers, keyState, hidle, KeyState.callsOut]
  | append_singleton moves m ih =>
    -- Whatever the move does to the key, it keeps the account of calls and answers balanced.
    obtain ⟨event, hat⟩ := Step.exists_at ⟨p.run moves, m⟩ (h.run moves) k
    have hstep := hat.callsOut_eq
    simp only [Step.after] at hstep
    simp only [asks, answers] at ih hstep ⊢
    rw [steps_concat, run_concat, List.countP_append, List.countP_append]
    omega

theorem KeyState.callsOut_le (s : KeyState) : s.callsOut ≤ 1 := by
  unfold callsOut
  split <;> omega

/-! ## From one call of a key to the next -/

/-- How a key stands after a call for it, when the source has not been called for it again. -/
inductive Since (k : String) (s : KeyState) (steps : List Step) : Prop where
  | calling (h : s.stage = some .calling)
  | kept {entry : CacheEntry} (hstage : s.stage = none ∨ ∃ o, s.stage = some (.finished o))
      (hentry : s.entry = some entry) (hstatus : entry.status = .success)
      (hheard : ∃ heard ∈ steps, ∃ a, heard.heard? = some (k, a))
  | lapsed (h : Lapsed k steps)

theorem Lapsed.concat {steps : List Step} (h : Lapsed k steps) (s : Step) :
    Lapsed k (steps ++ [s]) := by
  obtain ⟨earlier, heard, later, answer, rfl, hheard, hcause⟩ := h
  refine ⟨earlier, heard, later ++ [s], answer, by simp, hheard, hcause.imp id ?_⟩
  rintro ⟨d, hd, hlost⟩
  exact ⟨d, List.mem_append_left _ hd, hlost⟩

theorem lapsed_of_lost {steps : List Step} {s : Step}
    (hheard : ∃ heard ∈ steps, ∃ a, heard.heard? = some (k, a)) (hloses : s.Loses k)
    (hcause : s.Invalidates k ∨ s.Evicts k) : Lapsed k (steps ++ [s]) := by
  obtain ⟨heard, hmem, answer, hheard⟩ := hheard
  obtain ⟨earlier, later, rfl⟩ := List.append_of_mem hmem
  exact ⟨earlier, heard, later ++ [s], answer, by simp, hheard,
    Or.inr ⟨s, by simp, hloses, hcause⟩⟩

theorem Step.At.loses {s : Step} (hk : Cache.IsKey k) (h : s.At k .lost) : s.Loses k := by
  have hnext := h.next
  have hbefore := s.before.entry_keyState k
  have hafter := s.after.entry_keyState k
  generalize s.before.keyState k = a at hnext hbefore
  generalize s.after.keyState k = b at hnext hafter
  cases hnext
  simp [Loses, Cache.contains, Cache.get?, hk.2, ← hbefore, ← hafter]

theorem Since.step {s : Step} {event : KeyEvent} {steps : List Step} (hk : Cache.IsKey k)
    (h : Since k (s.before.keyState k) steps) (hat : s.At k event) :
    Since k (s.after.keyState k) (steps ++ [s]) := by
  have hnext := hat.next
  generalize s.before.keyState k = a at hnext h
  generalize s.after.keyState k = b at hnext
  cases h with
  | lapsed h => exact .lapsed (h.concat s)
  | calling h =>
    cases hnext with
    | nothing => exact .calling h
    | lost => exact .calling h
    | heard entry answer =>
      have hheard := (hat.heard answer).mp rfl
      cases hout : (answer.outcome k).value with
      | ok candidates =>
        exact .kept (Or.inr ⟨_, rfl⟩) rfl rfl ⟨s, by simp, answer, hheard⟩
      | error e => exact .lapsed ⟨steps, s, [], answer, rfl, hheard, Or.inl ⟨e, hout⟩⟩
    | scheduled | asked | left => cases h
  | @kept entry hstage hentry hstatus hheard =>
    have hheard' : ∃ heard ∈ steps ++ [s], ∃ a, heard.heard? = some (k, a) := by
      obtain ⟨x, hx, hx'⟩ := hheard
      exact ⟨x, List.mem_append_left _ hx, hx'⟩
    cases hnext with
    | nothing => exact .kept hstage hentry hstatus hheard'
    | left => exact .kept (Or.inl rfl) hentry hstatus hheard'
    | lost => exact .lapsed (lapsed_of_lost hheard (hat.loses hk) (hat.lost rfl))
    | scheduled h => exact absurd hstatus (h _ hentry)
    | asked | heard => simp at hstage

theorem Step.At.stage_of_asked {s : Step} (h : s.At k .asked) :
    (s.before.keyState k).stage = some .scheduled ∧ (s.after.keyState k).stage = some .calling := by
  have hnext := h.next
  generalize s.before.keyState k = a at hnext ⊢
  generalize s.after.keyState k = b at hnext ⊢
  cases hnext
  exact ⟨rfl, rfl⟩

theorem since_run {s : Step} (h : s.before.Sound) (hs : s.asked? = some k) (moves : List Move) :
    Since k ((s.after.run moves).keyState k) (s.after.steps moves) := by
  have hk := h.isKey_of_asked? hs
  have hafter : s.after.Sound := h.move s.move
  induction moves using List.reverseRecOn with
  | nil =>
    obtain ⟨event, hat⟩ := s.exists_at h k
    cases hat.asked.mpr hs
    exact .calling hat.stage_of_asked.2
  | append_singleton moves m ih =>
    obtain ⟨event, hat⟩ := Step.exists_at ⟨s.after.run moves, m⟩ (hafter.run moves) k
    rw [run_concat, steps_concat]
    exact ih.step hk hat

/-- Between two calls for a key the load of the first one has lapsed. -/
theorem lapsed_of_asked_twice (h : p.Sound) {moves : List Move}
    {past between rest : List Step} {first second : Step}
    (hsteps : p.steps moves = past ++ first :: (between ++ second :: rest))
    (hfirst : first.asked? = some k) (hsecond : second.asked? = some k) : Lapsed k between := by
  obtain ⟨a, b, -, -, hb⟩ := steps_eq_append hsteps
  have hsound := h.run a
  obtain ⟨hbefore, more, hmore⟩ := steps_eq_cons hb
  obtain ⟨c, d, -, hc, hd⟩ := steps_eq_append hmore
  obtain ⟨hbefore', -⟩ := steps_eq_cons hd
  rw [← hbefore] at hsound
  have hsince := since_run hsound hfirst c
  rw [hc, ← hbefore'] at hsince
  have hsound' : second.before.Sound := by
    rw [hbefore']
    exact (Sound.move hsound first.move).run c
  obtain ⟨event, hat⟩ := second.exists_at hsound' k
  cases hat.asked.mpr hsecond
  have hstage := hat.stage_of_asked.1
  cases hsince with
  | lapsed h => exact h
  | calling h => rw [hstage] at h; cases h
  | kept h =>
    rw [hstage] at h
    simp at h

/-- The source is only asked for trimmed texts that are not empty, at most once at a time for a key,
and for a key again only after its last load failed or its entry was lost after it was stored. -/
theorem single_flight {size : Int} {cache : Cache} (hcache : Cache.ofCapacity size = .ok cache)
    (moves : List Move) (k : String) :
    (∀ s ∈ steps { cache } moves, s.asked? = some k → k ≠ "" ∧ Text.trim k = k) ∧
      (answers (steps { cache } moves) k ≤ asks (steps { cache } moves) k ∧
        asks (steps { cache } moves) k ≤ answers (steps { cache } moves) k + 1) ∧
      ∀ past first between second rest,
        steps { cache } moves = past ++ first :: (between ++ second :: rest) →
          first.asked? = some k → second.asked? = some k → Lapsed k between := by
  have h : Sound { cache } := sound_new (Cache.valid_of_entries_nil (Cache.ofCapacity_eq hcache).1)
  refine ⟨?_, ?_, ?_⟩
  · intro s hs hasked
    exact (sound_of_mem_steps h hs).isKey_of_asked? hasked
  · have heq := asks_eq h (k := k) rfl moves
    have hle := ((run { cache } moves).keyState k).callsOut_le
    omega
  · intro past first between second rest hsteps hfirst hsecond
    exact lapsed_of_asked_twice h hsteps hfirst hsecond

/-- Two keys that take turns in a cache for one. -/
def crowdedMoves : List Move :=
  [.fetch 0 " a", .call 0, .receive 0 (.payload (.arr [])), .settle 0, .fetch 1 "b", .call 1,
    .fetch 2 "a", .call 2]

theorem single_flight_crowded :
    Cache.ofCapacity 1 = .ok { capacity := 1 } ∧
      asks (steps { cache := { capacity := 1 } } crowdedMoves) "a" = 2 ∧
        Lapsed "a" (((steps { cache := { capacity := 1 } } crowdedMoves).drop 2).take 5) := by
  have hcache : Cache.ofCapacity 1 = .ok { capacity := 1 } := rfl
  have h := single_flight hcache crowdedMoves "a"
  refine ⟨hcache, by decide +kernel, ?_⟩
  exact h.2.2 [⟨{ cache := { capacity := 1 } }, .fetch 0 " a"⟩] _ _ _ [] rfl rfl rfl

end Formulary.Provider

import Formulary.Proofs.Provider.KeyState
import Formulary.Proofs.Provider.Waiters

/-!
# Where candidates come from

`G k candidates` says of candidates that the source gave them for the key `k`. If that holds of every
answer that is taken in, it holds of all the provider has: of what the cache keeps, of what loads bring
home and of what waiters are told. For the waiters it has to be known what they asked for; `asked`
lists that, and no move of a load changes it.
-/

namespace Formulary

/-- The candidates of an outcome; a failure has none. -/
def Outcome.candidates : Outcome → List Operand
  | .ok candidates => candidates
  | .error _ => []

/-- The candidates that an answer brings: those of its payload, if that is a list that can be read to
its end. -/
def Answer.candidates : Answer → List Operand
  | .payload (.arr items) =>
    if (Suggestion.breakOff? (.arr items)).isNone then (Suggestion.ofItems items).value else []
  | _ => []

theorem Answer.candidates_outcome (query : String) (answer : Answer) :
    Outcome.candidates (answer.outcome query).value = answer.candidates := by
  cases answer with
  | payload v =>
    cases v with
    | arr items =>
      cases h : Suggestion.breakOff? (.arr items) with
      | none => simp [outcome, candidates, Suggestion.ofPayload, h, Outcome.candidates]
      | some broken => simp [outcome, candidates, Suggestion.ofPayload, h, Outcome.candidates]
    | null | bool | int | float | str | obj => rfl
  | malformed | failure | breakdown => rfl

theorem Answer.exists_items_of_mem_candidates {answer : Answer} {x : Operand}
    (hx : x ∈ answer.candidates) :
    ∃ items, answer = .payload (.arr items) ∧ x ∈ (Suggestion.ofItems items).value := by
  unfold candidates at hx
  split at hx
  · split at hx
    · exact ⟨_, rfl, hx⟩
    · exact absurd hx List.not_mem_nil
  · exact absurd hx List.not_mem_nil

namespace Provider

variable {G : String → List Operand → Prop} {asked : Nat → Option String} {p : Provider}
  {k : String}

/-- An entry holds good candidates, or none if its request did not succeed. -/
structure GoodEntry (G : List Operand → Prop) (e : CacheEntry) : Prop where
  stored : e.status = .success → G e.data
  shown : e.data = [] ∨ G e.data

theorem good_entryOf {G : List Operand → Prop} {outcome : Outcome} (h : G outcome.candidates) :
    GoodEntry G (entryOf outcome) := by
  cases outcome with
  | ok candidates => exact ⟨fun _ => h, Or.inr h⟩
  | error e => exact ⟨nofun, Or.inl rfl⟩

theorem good_pendingEntry {G : List Operand → Prop} {entry : Option CacheEntry}
    (h : ∀ e, entry = some e → GoodEntry G e) : GoodEntry G (pendingEntry entry) := by
  cases entry with
  | none => exact ⟨nofun, Or.inl rfl⟩
  | some e => exact ⟨nofun, (h e rfl).shown⟩

/-- Nothing but candidates of the source is kept or brought home for a key. -/
structure KeyState.Good (G : String → List Operand → Prop) (k : String) (s : KeyState) : Prop where
  entry : ∀ e, s.entry = some e → GoodEntry (G k) e
  finished : ∀ o : Outcome, s.stage = some (.finished o) → G k o.candidates

theorem KeyState.Good.next {s s' : KeyState} {event : KeyEvent} (h : s.Good G k)
    (hnext : Next k event s s')
    (hheard : ∀ answer, event = .heard answer → G k (answer.candidates)) : s'.Good G k := by
  cases hnext with
  | nothing => exact h
  | scheduled => exact ⟨h.entry, nofun⟩
  | left => exact ⟨h.entry, nofun⟩
  | lost => exact ⟨nofun, h.finished⟩
  | asked entry =>
    refine ⟨?_, nofun⟩
    rintro _ ⟨⟩
    exact good_pendingEntry h.entry
  | heard entry answer =>
    have hgood := hheard answer rfl
    rw [← answer.candidates_outcome k] at hgood
    refine ⟨?_, ?_⟩
    · rintro _ ⟨⟩
      exact good_entryOf hgood
    · rintro _ ⟨⟩
      exact hgood

/-- What a provider has for its keys and its waiters comes from the source. -/
structure Served (G : String → List Operand → Prop) (asked : Nat → Option String)
    (p : Provider) : Prop where
  sound : p.Sound
  known : ∀ k, (p.keyState k).Good G k
  waiting : ∀ l ∈ p.loads, ∀ w ∈ l.waiters, asked w = some l.key
  told : ∀ w (o : Outcome), (w, .answered o) ∈ p.results → ∃ k, asked w = some k ∧ G k o.candidates

theorem served_new {cache : Cache} (h : cache.entries = []) : Served G asked { cache } where
  sound := sound_new (Cache.valid_of_entries_nil h)
  known := by
    intro k
    exact ⟨by simp [keyState, h], nofun⟩
  waiting := nofun
  told := nofun

theorem Served.peek (h : p.Served G asked) (query : String) :
    p.peek query = [] ∨ G (queryKey query) (p.peek query) := by
  cases he : p.cache.get? query with
  | none => exact Or.inl (by simp [Provider.peek, he])
  | some e =>
    by_cases hs : e.status = .error
    · exact Or.inl (by simp [Provider.peek, he, hs])
    · rw [show p.peek query = e.data by simp [Provider.peek, he, hs]]
      exact ((h.known (queryKey query)).entry e he).shown

theorem Served.known_outcome (h : p.Served G asked) (hblank : G "" []) {outcome : Outcome}
    (hk : Known p (queryKey k) outcome) : G (queryKey k) outcome.candidates := by
  by_cases hkey : queryKey k = ""
  · cases hk with
    | blank => exact hkey ▸ hblank
    | cached hne | finished hne => exact absurd hkey hne
  · rcases hk.stored_or_finished h.sound (Cache.isKey_queryKey hkey) with ⟨e, he, hs, rfl⟩ | hstage
    · exact ((h.known (queryKey k)).entry e he).stored hs
    · exact (h.known (queryKey k)).finished outcome hstage

theorem Sound.isKey_of_heard? {s : Step} {answer : Answer} (h : s.before.Sound)
    (hs : s.heard? = some (k, answer)) : Cache.IsKey k := by
  unfold Step.heard? at hs
  split at hs
  · split at hs
    · rename_i hl
      cases hs
      exact h.isKey_load (mem_of_load? hl).1
    · cases hs
  · cases hs

theorem Served.told_waiters (h : p.Served G asked) {l : Load} {outcome : Outcome}
    (hl : l ∈ p.loads) (hs : l.stage = .finished outcome) {w : Nat} (hw : w ∈ l.waiters) :
    ∃ k, asked w = some k ∧ G k outcome.candidates := by
  have hstage := h.sound.stage?_eq_some_iff.mpr ⟨l, hl, rfl, hs⟩
  exact ⟨l.key, h.waiting l hl w hw, (h.known l.key).finished outcome hstage⟩

theorem Served.known_move (h : p.Served G asked) (m : Move)
    (hheard : ∀ k answer, (Step.mk p m).heard? = some (k, answer) → G k (answer.candidates))
    (k : String) : ((p.move m).keyState k).Good G k := by
  obtain ⟨event, hat⟩ := Step.exists_at ⟨p, m⟩ h.sound k
  exact (h.known k).next hat.next fun answer he => hheard k answer ((hat.heard answer).mp he)

theorem Served.waiting_move (h : p.Served G asked) (m : Move)
    (hasked : ∀ waiter query, m = .fetch waiter query → asked waiter = some (queryKey query)) :
    ∀ l ∈ (p.move m).loads, ∀ w ∈ l.waiters, asked w = some l.key := by
  intro l hl w hw
  rcases mem_waiters_move hl hw with ⟨l', hl', htag, hw'⟩ | ⟨query, rfl, hkey⟩
  · have hlk : l'.key = l.key := congrArg Prod.fst htag
    exact hlk ▸ h.waiting l' hl' w hw'
  · rw [hkey h.sound]
    exact hasked w query rfl

theorem Served.told_move (h : p.Served G asked) (hblank : G "" []) (m : Move)
    (hasked : ∀ waiter query, m = .fetch waiter query → asked waiter = some (queryKey query)) :
    ∀ w (o : Outcome), (w, .answered o) ∈ (p.move m).results →
      ∃ k, asked w = some k ∧ G k o.candidates := by
  intro w o ho
  rcases mem_results_move ho with ho | hends
  · exact h.told w o ho
  · cases hends with
    | known hk => exact ⟨_, hasked _ _ rfl, h.known_outcome hblank hk⟩
    | left hl hs hw => exact h.told_waiters hl hs hw

/-- What comes from the source stays so, if whoever asks now is listed with its query. -/
theorem Served.move (h : p.Served G asked) (hblank : G "" []) (m : Move)
    (hasked : ∀ waiter query, m = .fetch waiter query → asked waiter = some (queryKey query))
    (hheard : ∀ k answer, (Step.mk p m).heard? = some (k, answer) → G k (answer.candidates)) :
    (p.move m).Served G asked where
  sound := h.sound.move m
  known := h.known_move m hheard
  waiting := h.waiting_move m hasked
  told := h.told_move hblank m hasked

/-- A waiter that has not asked yet may ask for anything. -/
theorem Served.extend (h : p.Served G asked) {waiter : Nat} (hw : asked waiter = none)
    (key : String) : p.Served G (Function.update asked waiter (some key)) where
  sound := h.sound
  known := h.known
  waiting := by
    intro l hl w hmem
    have hwait := h.waiting l hl w hmem
    have hne : w ≠ waiter := by
      rintro rfl
      rw [hw] at hwait
      cases hwait
    rwa [Function.update_of_ne hne]
  told := by
    intro w o hmem
    obtain ⟨k, hask, hgood⟩ := h.told w o hmem
    have hne : w ≠ waiter := by
      rintro rfl
      rw [hw] at hask
      cases hask
    exact ⟨k, by rwa [Function.update_of_ne hne], hgood⟩

end Provider

end Formulary

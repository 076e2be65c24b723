import Formulary.Proofs.Provider.SingleFlight
import Formulary.Proofs.Provider.Waiters

/-!
# What an invalidation drops

To invalidate a key drops its entry and leaves its load alone. If no call for the key is out then and
no answer to one waits to be handed on, all that is stored and told of the key from then on was asked
for later. Otherwise whoever asks next still shares the load from before: the case that an
invalidation misses.
-/

namespace Formulary.Provider

variable {p : Provider} {k : String} {w : Nat} {o : Outcome}

/-- In these steps the source is called for a key, and answers later with this outcome. -/
def Brings (k : String) (steps : List Step) (o : Outcome) : Prop :=
  ∃ before asked between heard after answer,
    steps = before ++ asked :: (between ++ heard :: after) ∧ asked.asked? = some k ∧
      heard.heard? = some (k, answer) ∧ (answer.outcome k).value = o

theorem Brings.concat {steps : List Step} (h : Brings k steps o) (s : Step) :
    Brings k (steps ++ [s]) o := by
  obtain ⟨before, asked, between, heard, after, answer, rfl, hasked, hheard, hout⟩ := h
  exact ⟨before, asked, between, heard, after ++ [s], answer, by simp, hasked, hheard, hout⟩

theorem brings_of_heard {steps : List Step} (h : ∃ asked ∈ steps, asked.asked? = some k) {s : Step}
    {answer : Answer} (hs : s.heard? = some (k, answer)) :
    Brings k (steps ++ [s]) (answer.outcome k).value := by
  obtain ⟨asked, hmem, hasked⟩ := h
  obtain ⟨before, between, rfl⟩ := List.append_of_mem hmem
  exact ⟨before, asked, between, s, [], answer, by simp, hasked, hs, rfl⟩

/-! ## The key -/

/-- What there is of a key was asked for in these steps. -/
structure Fresh (k : String) (steps : List Step) (s : KeyState) : Prop where
  calling : s.stage = some .calling → ∃ asked ∈ steps, asked.asked? = some k
  finished : ∀ o, s.stage = some (.finished o) → Brings k steps o
  stored : ∀ e, s.entry = some e → e.status = .success → Brings k steps (.ok e.data)

theorem Fresh.step {s : Step} {event : KeyEvent} {steps : List Step}
    (h : Fresh k steps (s.before.keyState k)) (hat : s.At k event) :
    Fresh k (steps ++ [s]) (s.after.keyState k) := by
  have hnext := hat.next
  generalize s.before.keyState k = a at hnext h
  generalize s.after.keyState k = b at hnext
  have hstored : ∀ e, a.entry = some e → e.status = .success →
      Brings k (steps ++ [s]) (.ok e.data) := fun e he hs => (h.stored e he hs).concat s
  have hfinished : ∀ o, a.stage = some (.finished o) → Brings k (steps ++ [s]) o :=
    fun o ho => (h.finished o ho).concat s
  have hcalling : a.stage = some .calling → ∃ asked ∈ steps ++ [s], asked.asked? = some k := by
    intro ha
    obtain ⟨asked, hmem, hasked⟩ := h.calling ha
    exact ⟨asked, List.mem_append_left _ hmem, hasked⟩
  cases hnext with
  | nothing => exact ⟨hcalling, hfinished, hstored⟩
  | scheduled => exact ⟨nofun, nofun, hstored⟩
  | left => exact ⟨nofun, nofun, hstored⟩
  | lost => exact ⟨hcalling, hfinished, nofun⟩
  | asked entry =>
    refine ⟨fun _ => ⟨s, by simp, hat.asked.mp rfl⟩, nofun, ?_⟩
    rintro _ ⟨⟩ hs
    cases hs
  | heard entry answer =>
    have hbrings := brings_of_heard (h.calling rfl) ((hat.heard answer).mp rfl)
    refine ⟨nofun, ?_, ?_⟩
    · rintro o ⟨⟩
      exact hbrings
    · rintro _ ⟨⟩ hs
      cases hout : (answer.outcome k).value with
      | ok candidates => rwa [hout] at hbrings
      | error e =>
        rw [hout] at hs
        cases hs

theorem Fresh.run (h : p.Sound) (hfresh : Fresh k [] (p.keyState k)) (moves : List Move) :
    Fresh k (p.steps moves) ((p.run moves).keyState k) := by
  induction moves using List.reverseRecOn with
  | nil => exact hfresh
  | append_singleton moves m ih =>
    obtain ⟨event, hat⟩ := Step.exists_at ⟨p.run moves, m⟩ (h.run moves) k
    rw [run_concat, steps_concat]
    exact ih.step hat

/-! ## A waiter -/

/-- A waiter waits for a key only, and what it was told was asked for in these steps. -/
structure Attends (k : String) (w : Nat) (steps : List Step) (p : Provider) : Prop where
  waiting : ∀ l ∈ p.loads, w ∈ l.waiters → l.key = k
  told : ∀ o, (w, .answered o) ∈ p.results → Brings k steps o

theorem Fresh.known_outcome {steps : List Step} (h : Fresh k steps (p.keyState k)) (hs : p.Sound)
    (hk : Cache.IsKey k) (hknown : Known p k o) : Brings k steps o := by
  rcases hknown.stored_or_finished hs hk with ⟨e, he, hstatus, rfl⟩ | hstage
  · exact h.stored e he hstatus
  · exact h.finished o hstage

theorem Attends.waiting_move {steps : List Step} (h : Attends k w steps p) (hs : p.Sound) (m : Move)
    (hm : ∀ query, m = .fetch w query → queryKey query = k) :
    ∀ l ∈ (p.move m).loads, w ∈ l.waiters → l.key = k := by
  intro l hl hw
  rcases mem_waiters_move hl hw with ⟨l', hl', htag, hw'⟩ | ⟨query, rfl, hkey⟩
  · have hlk : l'.key = l.key := congrArg Prod.fst htag
    exact hlk ▸ h.waiting l' hl' hw'
  · exact (hkey hs).trans (hm query rfl)

theorem Attends.told_move {steps : List Step} (h : Attends k w steps p)
    (hfresh : Fresh k steps (p.keyState k)) (hs : p.Sound) (hk : Cache.IsKey k) (m : Move)
    (hm : ∀ query, m = .fetch w query → queryKey query = k) :
    ∀ o, (w, .answered o) ∈ (p.move m).results → Brings k steps o := by
  intro o ho
  rcases mem_results_move ho with ho | hends
  · exact h.told o ho
  · cases hends with
    | @known query _ hknown =>
      rw [hm query rfl] at hknown
      exact hfresh.known_outcome hs hk hknown
    | @left l _ hl hstage hw =>
      exact hfresh.finished o (hs.stage?_eq_some_iff.mpr ⟨l, hl, h.waiting l hl hw, hstage⟩)

theorem Attends.run (hs : p.Sound) (hfresh : Fresh k [] (p.keyState k)) (hk : Cache.IsKey k)
    (h : Attends k w [] p) (moves : List Move)
    (hmoves : ∀ query, .fetch w query ∈ moves → queryKey query = k) :
    Attends k w (p.steps moves) (p.run moves) := by
  induction moves using List.reverseRecOn with
  | nil => exact h
  | append_singleton moves m ih =>
    have ih := ih fun query hq => hmoves query (List.mem_append_left _ hq)
    have hm : ∀ query, m = .fetch w query → queryKey query = k := by
      rintro query rfl
      exact hmoves query (by simp)
    have hsound : (p.run moves).Sound := hs.run moves
    have hnow := hfresh.run hs moves
    rw [run_concat, steps_concat]
    exact ⟨ih.waiting_move hsound m hm,
      fun o ho => (ih.told_move hnow hsound hk m hm o ho).concat _⟩

/-! ## Behind an invalidation -/

/-- A number that no waiter has had so far. -/
def Unused (p : Provider) (w : Nat) : Prop :=
  (∀ l ∈ p.loads, w ∉ l.waiters) ∧ ∀ r, (w, r) ∉ p.results

theorem attends_of_unused (h : p.Unused w) : Attends k w [] p :=
  ⟨fun l hl hw => absurd hw (h.1 l hl), fun o ho => absurd ho (h.2 (.answered o))⟩

theorem stage?_invalidate (p : Provider) (query : Option String) (k : String) :
    (p.invalidate query).stage? k = p.stage? k := rfl

theorem lookup_invalidate {query : Option String} (p : Provider)
    (hquery : ∀ q ∈ query, queryKey q = k) :
    (p.invalidate query).cache.entries.lookup k = none := by
  rw [invalidate, Cache.lookup_invalidate, if_pos hquery]

theorem fresh_invalidate {query : Option String} (hquery : ∀ q ∈ query, queryKey q = k)
    (hstage : p.stage? k = none ∨ p.stage? k = some .scheduled) :
    Fresh k [] ((p.invalidate query).keyState k) := by
  rw [keyState, lookup_invalidate p hquery, stage?_invalidate]
  rcases hstage with hstage | hstage
  · rw [hstage]
    constructor <;> simp
  · rw [hstage]
    constructor <;> simp

theorem cached?_invalidate {query : Option String} (p : Provider) (hk : Cache.IsKey k)
    (hquery : ∀ q ∈ query, queryKey q = k) : (p.invalidate query).cached? k = none := by
  rw [cached?, Cache.get?, hk.2, lookup_invalidate p hquery]

theorem Sound.exists_sharedLoad (h : p.Sound) {stage : LoadStage} (hstage : p.stage? k = some stage) :
    ∃ l ∈ p.loads, l.key = k ∧ l.stage = stage ∧ p.sharedLoad? k = some l := by
  obtain ⟨l, hl, hlk, hls⟩ := h.stage?_eq_some_iff.mp hstage
  exact ⟨l, hl, hlk, hls, h.sharedLoad?_eq_some_iff.mpr ⟨hl, hlk⟩⟩

theorem fetch_of_calling {l : Load} (hk : k ≠ "") (hcached : p.cached? k = none)
    (hl : p.sharedLoad? k = some l) (hstage : l.stage = .calling) {query : String}
    (hquery : queryKey query = k) (w : Nat) :
    p.move (.fetch w query) =
      p.modifyLoad l.id fun l => { l with waiters := l.waiters ++ [w] } := by
  simp [move, fetch, hquery, hk, hcached, hl, hstage]

theorem fetch_of_finished {l : Load} (hk : k ≠ "") (hcached : p.cached? k = none)
    (hl : p.sharedLoad? k = some l) (hstage : l.stage = .finished o) {query : String}
    (hquery : queryKey query = k) (w : Nat) :
    p.move (.fetch w query) = p.finish w (.answered o) := by
  simp [move, fetch, hquery, hk, hcached, hl, hstage]

/-- If no call for a key is out when it is invalidated, and no answer to one waits to be handed on, then
what is stored for the key and told to new waiters was asked for after that. If there is such a call or
answer, the next waiter shares its load. -/
theorem brought_after_invalidation {size : Int} {cache : Cache}
    (hcache : Cache.ofCapacity size = .ok cache) (past : List Move) {query : Option String}
    (hk : Cache.IsKey k) (hquery : ∀ q ∈ query, queryKey q = k) :
    let p := (run { cache } past).invalidate query
    (p.stage? k = none ∨ p.stage? k = some .scheduled → ∀ later : List Move,
        (∀ candidates, (p.run later).cached? k = some candidates →
          Brings k (p.steps later) (.ok candidates)) ∧
        ∀ w, p.Unused w → (∀ q, .fetch w q ∈ later → queryKey q = k) →
          ∀ o, (w, .answered o) ∈ (p.run later).results → Brings k (p.steps later) o) ∧
      ∀ q, queryKey q = k → ∀ w,
        (p.stage? k = some .calling → ∃ l ∈ p.loads, l.key = k ∧ l.stage = .calling ∧
          p.move (.fetch w q) =
            p.modifyLoad l.id fun l => { l with waiters := l.waiters ++ [w] }) ∧
        ∀ o, p.stage? k = some (.finished o) →
          p.move (.fetch w q) = p.finish w (.answered o) := by
  intro p
  have hnew : Sound { cache } :=
    sound_new (Cache.valid_of_entries_nil (Cache.ofCapacity_eq hcache).1)
  have hsound : p.Sound := (hnew.run past).move (.invalidate query)
  have hcached : p.cached? k = none := cached?_invalidate _ hk hquery
  refine ⟨?_, ?_⟩
  · intro hstage later
    have hfresh : Fresh k [] (p.keyState k) := fresh_invalidate hquery hstage
    refine ⟨?_, ?_⟩
    · intro candidates hc
      exact (hfresh.run hsound later).known_outcome (hsound.run later) hk (.cached hk.1 hc)
    · intro w hw hlater o ho
      exact ((attends_of_unused hw).run hsound hfresh hk later hlater).told o ho
  · intro q hq w
    refine ⟨?_, ?_⟩
    · intro hstage
      obtain ⟨l, hl, hlk, hls, hshared⟩ := hsound.exists_sharedLoad hstage
      exact ⟨l, hl, hlk, hls, fetch_of_calling hk.1 hcached hshared hls hq w⟩
    · intro o hstage
      obtain ⟨l, -, -, hls, hshared⟩ := hsound.exists_sharedLoad hstage
      exact fetch_of_finished hk.1 hcached hshared hls hq w

/-- The answer of a source that knows one candidate. -/
def offers (name : String) : Answer := .payload (.arr [.obj [("name", .str name)]])

/-- A key is invalidated after its load has left, and asked for again. -/
theorem brought_after_invalidation_settled :
    let p := (run { cache := { capacity := 1 } }
      [.fetch 0 "x", .call 0, .receive 0 (offers "old"), .settle 0]).invalidate none
    Brings "x" (p.steps [.fetch 1 "x ", .call 1, .receive 1 (offers "new"), .settle 1])
      (.ok [{ name := "new" }]) := by
  have hcache : Cache.ofCapacity 1 = .ok { capacity := 1 } := rfl
  have hk : Cache.IsKey "x" := ⟨by decide, by decide +kernel⟩
  have hquery : ∀ q ∈ (none : Option String), queryKey q = "x" := nofun
  have h := brought_after_invalidation hcache
    [.fetch 0 "x", .call 0, .receive 0 (offers "old"), .settle 0] hk hquery
  refine (h.1 (Or.inl rfl) [.fetch 1 "x ", .call 1, .receive 1 (offers "new"), .settle 1]).1 _ ?_
  decide +kernel

/-- A key is invalidated while a call for it is out: the next waiter is answered, and the answer is
stored, without another call. -/
theorem invalidation_overtaken :
    let p := run {} [.fetch 0 "x", .call 0, .invalidate (some "x")]
    let later : List Move := [.fetch 1 "x", .receive 0 (offers "old"), .settle 0]
    asks (p.steps later) "x" = 0 ∧ (p.run later).cached? "x" = some [{ name := "old" }] ∧
      (p.run later).result? 1 = some (.answered (.ok [{ name := "old" }])) := by
  refine ⟨by decide +kernel, by decide +kernel, rfl⟩

end Formulary.Provider

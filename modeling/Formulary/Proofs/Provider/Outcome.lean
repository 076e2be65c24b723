import Formulary.Proofs.Provider.Answer
import Formulary.Proofs.Provider.Invalidation
import Formulary.Proofs.Provider.Waiters

/-!
# How loads and waits end

A load that takes in its answer is finished, and stays so until it leaves: its outcome goes to all who
wait for it and to all who ask meanwhile, and the entry of its key says the same. So whatever a waiter
is told was answered to a query of its own, unless the waiter gave up.
-/

namespace Formulary.Provider

variable {p : Provider} {l : Load} {k : String} {id w : Nat} {o : Outcome}

/-! ## The load -/

/-- A load of a key is finished, and the entry of the key is that of its outcome or is lost. -/
structure Finished (k : String) (id : Nat) (o : Outcome) (p : Provider) : Prop where
  load : ∃ l ∈ p.loads, l.tag = (k, id) ∧ l.stage = .finished o
  entry : ∀ e, p.cache.entries.lookup k = some e → e = entryOf o

theorem Finished.stage? (h : p.Finished k id o) (hs : p.Sound) :
    p.stage? k = some (.finished o) := by
  obtain ⟨l, hl, htag, hstage⟩ := h.load
  exact hs.stage?_eq_some_iff.mpr ⟨l, hl, congrArg Prod.fst htag, hstage⟩

theorem finished_move (hs : p.Sound) (hl : l ∈ p.loads) (hstage : l.stage = .finished o) {m : Move}
    (hm : m ≠ .settle l.id) :
    ∃ l' ∈ (p.move m).loads, l'.tag = l.tag ∧ l'.stage = .finished o ∧
      ∀ w ∈ l.waiters, m ≠ .cancel w → w ∈ l'.waiters := by
  obtain ⟨l', hl', htag, hstages, hwaiters⟩ := load_move hs hl hm
  rcases hstages with hsame | ⟨hnot, -⟩ | ⟨hnot, -⟩
  · exact ⟨l', hl', htag, hsame.trans hstage, hwaiters⟩
  · cases hstage.symm.trans hnot
  · cases hstage.symm.trans hnot

theorem KeyState.Next.entry_of_finished {s s' : KeyState} {event : KeyEvent}
    (h : KeyState.Next k event s s') (hs : s.stage = some (.finished o))
    (hs' : s'.stage = some (.finished o)) : s'.entry = s.entry ∨ s'.entry = none := by
  cases h with
  | nothing => exact Or.inl rfl
  | lost => exact Or.inr rfl
  | left => cases hs'
  | scheduled | asked | heard => cases hs

theorem Finished.move (h : p.Finished k id o) (hs : p.Sound) {m : Move} (hm : m ≠ .settle id) :
    (p.move m).Finished k id o := by
  have hload : ∃ l ∈ (p.move m).loads, l.tag = (k, id) ∧ l.stage = .finished o := by
    obtain ⟨l, hl, htag, hstage⟩ := h.load
    have hid : l.id = id := congrArg Prod.snd htag
    obtain ⟨l', hl', htag', hstage', -⟩ := finished_move hs hl hstage (hid ▸ hm)
    exact ⟨l', hl', htag'.trans htag, hstage'⟩
  refine ⟨hload, ?_⟩
  intro e he
  obtain ⟨l, hl, htag, hstage⟩ := hload
  have hafter : (p.move m).stage? k = some (.finished o) :=
    (hs.move m).stage?_eq_some_iff.mpr ⟨l, hl, congrArg Prod.fst htag, hstage⟩
  -- The load is still there, so that the entry can only have been lost.
  obtain ⟨event, hat⟩ := Step.exists_at ⟨p, m⟩ hs k
  rcases hat.next.entry_of_finished (h.stage? hs) hafter with hsame | hgone
  · exact h.entry e (hsame.symm.trans he)
  · cases hgone.symm.trans he

theorem Finished.run (h : p.Finished k id o) (hs : p.Sound) {later : List Move}
    (hlater : .settle id ∉ later) : (p.run later).Finished k id o := by
  induction later generalizing p with
  | nil => exact h
  | cons m rest ih =>
    have hm : m ≠ .settle id := fun heq => hlater (heq ▸ List.mem_cons_self)
    have hrest : .settle id ∉ rest := fun hmem => hlater (List.mem_cons_of_mem m hmem)
    exact ih (h.move hs hm) (hs.move m) hrest

/-- Whoever asks for the key of a finished load is told its outcome at once. -/
theorem Finished.fetch (h : p.Finished k id o) (hs : p.Sound) {query : String}
    (hquery : queryKey query = k) (w : Nat) :
    p.move (.fetch w query) = p.finish w (.answered o) := by
  obtain ⟨l, hl, htag, hstage⟩ := h.load
  have hlk : l.key = k := congrArg Prod.fst htag
  have hk : Cache.IsKey k := hlk ▸ hs.isKey_load hl
  cases hcached : p.cached? k with
  | none =>
    exact fetch_of_finished hk.1 hcached (hs.sharedLoad?_eq_some_iff.mpr ⟨hl, hlk⟩) hstage hquery w
  | some candidates =>
    obtain ⟨e, he, hstatus, hdata⟩ := (cached?_eq_some_iff hk).mp hcached
    rw [h.entry e he] at hstatus hdata
    have ho : o = .ok candidates := by
      cases o with
      | ok xs => exact congrArg Except.ok hdata
      | error e => cases hstatus
    subst hquery ho
    exact fetch_of_cached hk.1 hcached w

theorem result?_settle (hs : p.Sound) (hl : l ∈ p.loads) (hstage : l.stage = .finished o)
    (hw : w ∈ l.waiters) (honly : p.WaitsOnlyFor w l.id) :
    (p.move (.settle l.id)).result? w = some (.answered o) ∧
      (p.move (.settle l.id)).Absent w := by
  have hsettle : p.move (.settle l.id) = _ := settle_of_finished (hs.load?_eq_some hl) hstage
  rw [hsettle]
  refine ⟨by rw [result?, lookup_told, if_pos hw], ?_⟩
  intro l' hl' hw'
  have hne : l'.id ≠ l.id := of_decide_eq_true (List.mem_filter.mp hl').2
  exact hne (honly l' (List.mem_of_mem_filter hl') hw')

/-- A waiter of a finished load that does not give up is told its outcome when it leaves. -/
theorem told_run (hs : p.Sound) (hl : l ∈ p.loads) (hstage : l.stage = .finished o)
    (hw : w ∈ l.waiters) (honly : p.WaitsOnlyFor w l.id) {later : List Move}
    (hlater : ∀ m ∈ later, ¬ m.Concerns w) (hsettle : .settle l.id ∈ later) :
    (p.run later).result? w = some (.answered o) := by
  induction later generalizing p l with
  | nil => cases hsettle
  | cons m rest ih =>
    have hm : ¬ m.Concerns w := hlater m List.mem_cons_self
    have hrest : ∀ n ∈ rest, ¬ n.Concerns w := fun n hn => hlater n (List.mem_cons_of_mem m hn)
    by_cases heq : m = .settle l.id
    · subst heq
      obtain ⟨hresult, habsent⟩ := result?_settle hs hl hstage hw honly
      exact (habsent.run hrest).trans hresult
    · obtain ⟨l', hl', htag, hstage', hwaiters⟩ := finished_move hs hl hstage heq
      have hid : l'.id = l.id := congrArg Prod.snd htag
      have hne : m ≠ .cancel w := by
        rintro rfl
        exact hm rfl
      have hsettle' : .settle l.id ∈ rest :=
        (List.mem_cons.mp hsettle).resolve_left fun h => heq h.symm
      have honly' : (p.move m).WaitsOnlyFor w l.id := honly.move hm
      rw [← hid] at hsettle' honly'
      exact ih (hs.move m) hl' hstage' (hwaiters w hw hne) honly' hrest hsettle'

/-- How a load ends when it takes in its answer: the key has the entry from then on, unless it is
dropped before the load leaves; who asks meanwhile is told the outcome at once, and who waits is told
when the load leaves. -/
structure Concludes (p : Provider) (l : Load) (answer : Answer) (o : Outcome)
    (entry : CacheEntry) : Prop where
  stored : (p.move (.receive l.id answer)).cache.get? l.key = some entry
  kept : ∀ later, .settle l.id ∉ later →
    let q := (p.move (.receive l.id answer)).run later
    q.cache.get? l.key = some entry ∨ q.cache.get? l.key = none
  joined : ∀ later, .settle l.id ∉ later → ∀ w query, queryKey query = l.key →
    let q := (p.move (.receive l.id answer)).run later
    q.move (.fetch w query) = q.finish w (.answered o)
  told : ∀ w ∈ l.waiters, p.WaitsOnlyFor w l.id → ∀ later, (∀ m ∈ later, ¬ m.Concerns w) →
    .settle l.id ∈ later →
    ((p.move (.receive l.id answer)).run later).result? w = some (.answered o)

theorem received_load (hs : p.Sound) (hl : l ∈ p.loads) (hstage : l.stage = .calling)
    {answer : Answer} (hends : answer.Ends l.key o) :
    { l with stage := .finished o } ∈ (p.move (.receive l.id answer)).loads ∧
      (p.move (.receive l.id answer)).cache.entries.lookup l.key = some (entryOf o) := by
  have hmove : p.move (.receive l.id answer) = _ :=
    receive_of_calling (hs.load?_eq_some hl) hstage answer
  rw [hmove, hends.eq_outcome, record_eq_put]
  refine ⟨mem_modifyLoad hl _ fun m => { m with stage := .finished o }, ?_⟩
  simp only [cache_modifyLoad]
  exact lookup_put_isKey (hs.isKey_load hl) _

theorem concludes (hs : p.Sound) (hl : l ∈ p.loads) (hstage : l.stage = .calling)
    {answer : Answer} (hends : answer.Ends l.key o) : p.Concludes l answer o (entryOf o) := by
  obtain ⟨hload, hentry⟩ := received_load hs hl hstage hends
  have hkey (q : Provider) : q.cache.get? l.key = q.cache.entries.lookup l.key := by
    rw [Cache.get?, (hs.isKey_load hl).2]
  have hsound : (p.move (.receive l.id answer)).Sound := hs.move _
  have hfinished : (p.move (.receive l.id answer)).Finished l.key l.id o :=
    ⟨⟨_, hload, rfl, rfl⟩, fun e he => Option.some.inj (he.symm.trans hentry)⟩
  refine ⟨(hkey _).trans hentry, ?_, ?_, ?_⟩
  · intro later hlater q
    rw [hkey]
    cases he : q.cache.entries.lookup l.key with
    | none => exact Or.inr rfl
    | some e => exact Or.inl (congrArg some ((hfinished.run hsound hlater).entry e he))
  · intro later hlater w query hquery q
    exact (hfinished.run hsound hlater).fetch (hsound.run later) hquery w
  · intro w hw honly later hlater hsettle
    have hnot : ¬ (Move.receive l.id answer).Concerns w := id
    exact told_run hsound hload rfl hw (honly.move hnot) hlater hsettle

/-! ## The waiters -/

/-- What a waiter may be told in a run. -/
inductive Accounted (p : Provider) (moves : List Move) (w : Nat) : WaitResult → Prop where
  | gaveUp (h : .cancel w ∈ moves) : Accounted p moves w .cancelled
  | blank {query : String} (h : .fetch w query ∈ moves) (hkey : queryKey query = "") :
      Accounted p moves w (.answered (.ok []))
  | heard {query : String} {s : Step} {answer : Answer} {o : Outcome}
      (h : .fetch w query ∈ moves) (hs : s ∈ p.steps moves)
      (hheard : s.heard? = some (queryKey query, answer)) (hends : answer.Ends (queryKey query) o) :
      Accounted p moves w (.answered o)

theorem Accounted.concat {moves : List Move} {r : WaitResult} (h : Accounted p moves w r) (m : Move) :
    Accounted p (moves ++ [m]) w r := by
  cases h with
  | gaveUp h => exact .gaveUp (List.mem_append_left _ h)
  | blank h hkey => exact .blank (List.mem_append_left _ h) hkey
  | heard h hs hheard hends =>
    refine .heard (List.mem_append_left _ h) ?_ hheard hends
    rw [steps_concat]
    exact List.mem_append_left _ hs

theorem Brings.accounted {moves : List Move} {query : String}
    (h : Brings (queryKey query) (p.steps moves) o) (hfetch : .fetch w query ∈ moves) :
    Accounted p moves w (.answered o) := by
  obtain ⟨before, asked, between, heard, after, answer, hsteps, -, hheard, rfl⟩ := h
  refine .heard hfetch ?_ hheard (answer.ends_outcome _)
  rw [hsteps]
  simp

theorem waiting_run (hs : p.Sound) (hw : p.Unused w) (moves : List Move) :
    ∀ l ∈ (p.run moves).loads, w ∈ l.waiters →
      ∃ query, .fetch w query ∈ moves ∧ queryKey query = l.key := by
  induction moves using List.reverseRecOn with
  | nil => exact fun l hl hmem => absurd hmem (hw.1 l hl)
  | append_singleton moves m ih =>
    intro l hl hmem
    rw [run_concat] at hl
    rcases mem_waiters_move hl hmem with ⟨l', hl', htag, hmem'⟩ | ⟨query, rfl, hkey⟩
    · obtain ⟨query, hfetch, hquery⟩ := ih l' hl' hmem'
      exact ⟨query, List.mem_append_left _ hfetch, hquery.trans (congrArg Prod.fst htag)⟩
    · exact ⟨query, by simp, (hkey (hs.run moves)).symm⟩

theorem fresh_new {cache : Cache} (h : cache.entries = []) (k : String) :
    Fresh k [] (keyState { cache } k) := by
  constructor <;> simp [keyState, Provider.stage?, h]

theorem accounted_run (hs : p.Sound) (hfresh : ∀ k, Fresh k [] (p.keyState k)) (hw : p.Unused w)
    (moves : List Move) :
    ∀ r, (w, r) ∈ (p.run moves).results → Accounted p moves w r := by
  induction moves using List.reverseRecOn with
  | nil => exact fun r hr => absurd hr (hw.2 r)
  | append_singleton moves m ih =>
    intro r hr
    have hsound : (p.run moves).Sound := hs.run moves
    rw [run_concat] at hr
    rcases mem_results_move hr with hr | hends
    · exact (ih r hr).concat m
    · cases hends with
      | gaveUp => exact .gaveUp (by simp)
      | @known query outcome hknown =>
        by_cases hkey : queryKey query = ""
        · cases hknown with
          | blank => exact .blank (by simp) hkey
          | cached hne | finished hne => exact absurd hkey hne
        · have hbrings := ((hfresh _).run hs moves).known_outcome hsound
            (Cache.isKey_queryKey hkey) hknown
          have hlater : Brings (queryKey query) (p.steps (moves ++ [.fetch w query])) outcome := by
            rw [steps_concat]
            exact hbrings.concat _
          exact hlater.accounted (by simp)
      | @left l outcome hl hstage hmem =>
        obtain ⟨query, hfetch, hquery⟩ := waiting_run hs hw moves l hl hmem
        have hstage' := hsound.stage?_eq_some_iff.mpr ⟨l, hl, hquery.symm, hstage⟩
        have hbrings := ((hfresh _).run hs moves).finished outcome hstage'
        exact (hbrings.accounted hfetch).concat _

end Formulary.Provider

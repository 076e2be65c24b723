import Formulary.Proofs.Provider.Table
import Mathlib.Data.List.Find

/-!
# The provider at one key

Of a key only two things matter: how far its load has come, if there is one, and its entry in the
cache, if there is one. A step does one of six things to them, and `Step.exists_at` says so: nothing,
a load is scheduled, it calls the source, it takes in the answer, it leaves, or the entry is lost.
-/

namespace Formulary.Provider

/-- A key as the provider sees it: the stage of its load and its entry. -/
structure KeyState where
  stage : Option LoadStage
  entry : Option CacheEntry

def stage? (p : Provider) (k : String) : Option LoadStage :=
  (p.loads.find? fun l => l.key = k).map Load.stage

def keyState (p : Provider) (k : String) : KeyState := ⟨p.stage? k, p.cache.entries.lookup k⟩

@[simp] theorem stage_keyState (p : Provider) (k : String) :
    (p.keyState k).stage = p.stage? k := rfl

@[simp] theorem entry_keyState (p : Provider) (k : String) :
    (p.keyState k).entry = p.cache.entries.lookup k := rfl

@[simp] theorem cache_modifyLoad (p : Provider) (id : Nat) (change : Load → Load) :
    (p.modifyLoad id change).cache = p.cache := rfl

/-- What a step does to a key. -/
inductive KeyEvent where
  | nothing
  | scheduled
  | asked
  | heard (answer : Answer)
  | left
  | lost

/-- The entry of a load that calls the source: candidates that are known already stay. -/
def pendingEntry (entry : Option CacheEntry) : CacheEntry :=
  { status := .pending, data := (entry.map (·.data)).getD [] }

/-- A key before and after something happened to it. -/
inductive KeyState.Next (k : String) : KeyEvent → KeyState → KeyState → Prop where
  | nothing (s : KeyState) : Next k .nothing s s
  | scheduled {entry : Option CacheEntry} (h : ∀ e ∈ entry, e.status ≠ .success) :
      Next k .scheduled ⟨none, entry⟩ ⟨some .scheduled, entry⟩
  | asked (entry : Option CacheEntry) :
      Next k .asked ⟨some .scheduled, entry⟩ ⟨some .calling, some (pendingEntry entry)⟩
  | heard (entry : Option CacheEntry) (answer : Answer) :
      Next k (.heard answer) ⟨some .calling, entry⟩
        ⟨some (.finished (answer.outcome k).value), some (entryOf (answer.outcome k).value)⟩
  | left (outcome : Outcome) (entry : Option CacheEntry) :
      Next k .left ⟨some (.finished outcome), entry⟩ ⟨none, entry⟩
  | lost (stage : Option LoadStage) (e : CacheEntry) : Next k .lost ⟨stage, some e⟩ ⟨stage, none⟩

namespace Step

def Writes (s : Step) (k : String) : Prop := s.asked? = some k ∨ ∃ a, s.heard? = some (k, a)

/-- The step drops a query with this key, or all queries. -/
def Invalidates (s : Step) (k : String) : Prop :=
  ∃ query, s.move = .invalidate query ∧ ∀ q ∈ query, queryKey q = k

/-- The entry of a key had to leave for that of another one. -/
def Evicts (s : Step) (k : String) : Prop := ∃ k', s.Writes k' ∧ k' ≠ k

end Step

variable {p : Provider} {l : Load} {k : String} {id : Nat}

/-! ## The stage of a key -/

theorem Sound.stage?_eq_some_iff (h : p.Sound) {stage : LoadStage} :
    p.stage? k = some stage ↔ ∃ l ∈ p.loads, l.key = k ∧ l.stage = stage := by
  constructor
  · intro hs
    obtain ⟨l, hl, hls⟩ := Option.map_eq_some_iff.mp hs
    exact ⟨l, List.mem_of_find?_eq_some hl, by simpa using List.find?_some hl, hls⟩
  · rintro ⟨l, hl, rfl, rfl⟩
    cases hf : p.loads.find? fun m => m.key = l.key with
    | none =>
      have hne := List.find?_eq_none.mp hf l hl
      simp at hne
    | some m =>
      have hkey : m.key = l.key := by simpa using List.find?_some hf
      rw [stage?, hf, h.eq_of_key (List.mem_of_find?_eq_some hf) hl hkey]
      rfl

theorem Sound.stage?_of_mem (h : p.Sound) (hl : l ∈ p.loads) : p.stage? l.key = some l.stage :=
  h.stage?_eq_some_iff.mpr ⟨l, hl, rfl, rfl⟩

theorem stage?_eq_none_iff : p.stage? k = none ↔ ∀ l ∈ p.loads, l.key ≠ k := by
  simp [stage?]

theorem stage?_schedule (p : Provider) (key : String) (waiter : Nat) (k : String) :
    (p.schedule key waiter).stage? k =
      (p.stage? k).or (if k = key then some .scheduled else none) := by
  simp only [stage?, schedule, List.find?_append, Option.map_or]
  by_cases h : k = key <;> simp [h, eq_comm]

theorem stage?_map (p : Provider) (change : Load → Load)
    (h : ∀ l, (change l).key = l.key ∧ (change l).stage = l.stage) (k : String) :
    ((p.loads.map change).find? fun l => l.key = k).map Load.stage = p.stage? k := by
  rw [List.find?_map, Option.map_map, stage?]
  congr 1
  · exact funext fun l => (h l).2
  · congr 1
    exact funext fun l => by simp [(h l).1]

theorem Sound.stage?_modifyLoad (h : p.Sound) (hl : l ∈ p.loads) (stage : LoadStage)
    (cache : Cache) (k : String) :
    (Provider.modifyLoad { p with cache := cache } l.id fun m => { m with stage }).stage? k =
      if k = l.key then some stage else p.stage? k := by
  simp only [stage?, Provider.modifyLoad, List.find?_map, Option.map_map]
  rw [show ((fun m : Load => decide (m.key = k)) ∘ fun m =>
    if m.id = l.id then { m with stage } else m) = fun m => decide (m.key = k) from
      funext fun m => by by_cases hm : m.id = l.id <;> simp [hm]]
  cases hf : p.loads.find? fun m => decide (m.key = k) with
  | none =>
    have hne : l.key ≠ k := by simpa using List.find?_eq_none.mp hf l hl
    simp [hne.symm]
  | some m =>
    have hm := List.mem_of_find?_eq_some hf
    have hkey : m.key = k := by simpa using List.find?_some hf
    by_cases hk : k = l.key
    · rw [h.eq_of_key hm hl (hkey.trans hk)]
      simp [hk]
    · have hid : m.id ≠ l.id := fun he => hk (by rw [← hkey, h.eq_of_id hm hl he])
      simp [hk, hid]

theorem Sound.stage?_settled (h : p.Sound) (hl : l ∈ p.loads) (shared : List (String × Nat))
    (results : List (Nat × WaitResult)) (k : String) :
    stage? { p with loads := p.loads.filter (fun m => m.id ≠ l.id), shared, results } k =
      if k = l.key then none else p.stage? k := by
  simp only [stage?, List.find?_filter]
  by_cases hk : k = l.key
  · subst hk
    rw [List.find?_eq_none.mpr]
    · simp
    · intro m hm hand
      obtain ⟨hid, hkey⟩ : m.id ≠ l.id ∧ m.key = l.key := by simpa using hand
      exact hid (congrArg Load.id (h.eq_of_key hm hl hkey))
  · rw [if_neg hk]
    congr 1
    apply List.find?_congr
    intro m hm
    by_cases hkey : m.key = k
    · have hid : m.id ≠ l.id := fun he => hk (by rw [← hkey, h.eq_of_id hm hl he])
      simp [hkey, hid]
    · simp [hkey]

/-! ## The entry of a key -/

theorem markPending_eq_put (cache : Cache) (hk : Cache.IsKey k) :
    cache.markPending k = cache.put k (pendingEntry (cache.entries.lookup k)) := by
  rw [Cache.markPending, Cache.get?, hk.2, pendingEntry]

theorem lookup_put_isKey {cache : Cache} (hk : Cache.IsKey k) (entry : CacheEntry) :
    (cache.put k entry).value.entries.lookup k = some entry := by
  have h : (cache.put k entry).value.entries.lookup (queryKey k) = some entry :=
    Cache.lookup_put_self (by rw [hk.2]; exact hk.1)
  rwa [hk.2] at h

theorem cached?_eq_some_iff (hk : Cache.IsKey k) {candidates : List Operand} :
    p.cached? k = some candidates ↔
      ∃ e, p.cache.entries.lookup k = some e ∧ e.status = .success ∧ e.data = candidates := by
  rw [cached?, Cache.get?, hk.2]
  cases p.cache.entries.lookup k with
  | none => simp
  | some e => simp

theorem not_success_of_cached?_eq_none (hk : Cache.IsKey k) (h : p.cached? k = none) :
    ∀ e ∈ p.cache.entries.lookup k, e.status ≠ .success := by
  intro e he hs
  have hsome : p.cached? k = some e.data := (cached?_eq_some_iff hk).mpr ⟨e, he, hs, rfl⟩
  rw [h] at hsome
  cases hsome

/-- An outcome that is known at once is held for good, or is that of a load that has not left yet. -/
theorem Known.stored_or_finished {o : Outcome} (h : Known p k o) (hs : p.Sound)
    (hk : Cache.IsKey k) :
    (∃ e, (p.keyState k).entry = some e ∧ e.status = .success ∧ o = .ok e.data) ∨
      (p.keyState k).stage = some (.finished o) := by
  cases h with
  | blank hblank => exact absurd hblank hk.1
  | cached _ hcached =>
    obtain ⟨e, he, hstatus, rfl⟩ := (cached?_eq_some_iff hk).mp hcached
    exact Or.inl ⟨e, he, hstatus, rfl⟩
  | finished _ hl hstage =>
    obtain ⟨hmem, hlk⟩ := hs.sharedLoad?_eq_some_iff.mp hl
    exact Or.inr (hs.stage?_eq_some_iff.mpr ⟨_, hmem, hlk, hstage⟩)

/-! ## Steps -/

/-- What a step does to a key, and how the event shows in the step. -/
structure Step.At (s : Step) (k : String) (event : KeyEvent) : Prop where
  next : KeyState.Next k event (s.before.keyState k) (s.after.keyState k)
  asked : event = .asked ↔ s.asked? = some k
  heard : ∀ a, event = .heard a ↔ s.heard? = some (k, a)
  lost : event = .lost → s.Invalidates k ∨ s.Evicts k

theorem next_of_entry {s s' : KeyState} (hstage : s'.stage = s.stage)
    (hentry : s'.entry = s.entry ∨ s'.entry = none) :
    KeyState.Next k .nothing s s' ∨ KeyState.Next k .lost s s' := by
  obtain ⟨stage, entry⟩ := s
  obtain ⟨stage', entry'⟩ := s'
  cases hstage
  rcases hentry with rfl | rfl
  · exact Or.inl (.nothing _)
  · cases entry with
    | none => exact Or.inl (.nothing _)
    | some e => exact Or.inr (.lost _ e)

theorem Step.At.of_entry {s : Step} (hasked : s.asked? ≠ some k)
    (hheard : ∀ a, s.heard? ≠ some (k, a)) (hlost : s.Invalidates k ∨ s.Evicts k)
    (hstage : (s.after.keyState k).stage = (s.before.keyState k).stage)
    (hentry : (s.after.keyState k).entry = (s.before.keyState k).entry ∨
      (s.after.keyState k).entry = none) : ∃ event, s.At k event := by
  rcases next_of_entry (k := k) hstage hentry with h | h
  · exact ⟨.nothing, h, by simpa using hasked, by simpa using hheard, by simp⟩
  · exact ⟨.lost, h, by simpa using hasked, by simpa using hheard, fun _ => hlost⟩

theorem Step.At.nothing {s : Step} (hasked : s.asked? = none) (hheard : s.heard? = none)
    (h : s.after.keyState k = s.before.keyState k) : s.At k .nothing :=
  ⟨h ▸ .nothing _, by simp [hasked], by simp [hheard], by simp⟩

theorem Step.asked?_call (hl : p.load? id = some l) (hs : l.stage = .scheduled) :
    (Step.mk p (.call id)).asked? = some l.key := by
  obtain ⟨n, key, stage, waiters⟩ := l
  cases hs
  simp [asked?, hl]

theorem Step.heard?_receive (hl : p.load? id = some l) (hs : l.stage = .calling)
    (answer : Answer) : (Step.mk p (.receive id answer)).heard? = some (l.key, answer) := by
  obtain ⟨n, key, stage, waiters⟩ := l
  cases hs
  simp [heard?, hl]

theorem keyState_eq {q : Provider} (hcache : q.cache = p.cache) (hstage : q.stage? k = p.stage? k) :
    q.keyState k = p.keyState k := by
  rw [keyState, keyState, hcache, hstage]

theorem Sound.keyState_write (h : p.Sound) (hl : l ∈ p.loads) (stage : LoadStage)
    (entry : CacheEntry) :
    keyState (Provider.modifyLoad { p with cache := (p.cache.put l.key entry).value } l.id
      fun m => { m with stage }) l.key = ⟨some stage, some entry⟩ := by
  have hentry : (p.cache.put l.key entry).value.entries.lookup l.key = some entry :=
    lookup_put_isKey (h.isKey_load hl) entry
  rw [keyState, h.stage?_modifyLoad hl, if_pos rfl, cache_modifyLoad]
  simp only [hentry]

theorem Sound.keyState_write_of_ne (h : p.Sound) (hl : l ∈ p.loads) (stage : LoadStage)
    (entry : CacheEntry) (hk : k ≠ l.key) {q : Provider}
    (hq : q = Provider.modifyLoad { p with cache := (p.cache.put l.key entry).value } l.id
      fun m => { m with stage }) :
    (q.keyState k).stage = (p.keyState k).stage ∧
      ((q.keyState k).entry = (p.keyState k).entry ∨ (q.keyState k).entry = none) := by
  subst hq
  have hne : k ≠ queryKey l.key := by rwa [(h.isKey_load hl).2]
  simp only [stage_keyState, entry_keyState, cache_modifyLoad]
  exact ⟨by rw [h.stage?_modifyLoad hl, if_neg hk], Cache.lookup_put_of_ne h.cache hne⟩

namespace Step

variable {waiter : Nat} {query : String} {answer : Answer} {outcome : Outcome}

theorem exists_at_schedule (h : p.Sound) (hkey : queryKey query ≠ "")
    (hcached : p.cached? (queryKey query) = none) (hshared : p.sharedLoad? (queryKey query) = none)
    (hafter : (Step.mk p (.fetch waiter query)).after = p.schedule (queryKey query) waiter) :
    ∃ event, (Step.mk p (.fetch waiter query)).At k event := by
  have hnone : p.stage? (queryKey query) = none :=
    stage?_eq_none_iff.mpr (h.sharedLoad?_eq_none_iff.mp hshared)
  by_cases hk : k = queryKey query
  · subst hk
    refine ⟨.scheduled, ?_, by simp [asked?], by simp [heard?], by simp⟩
    rw [hafter, keyState, keyState, stage?_schedule, hnone, if_pos rfl]
    exact .scheduled (not_success_of_cached?_eq_none (Cache.isKey_queryKey hkey) hcached)
  · refine ⟨.nothing, .nothing rfl rfl ?_⟩
    rw [hafter]
    refine keyState_eq rfl ?_
    rw [stage?_schedule, if_neg hk, Option.or_none]

theorem exists_at_invalidate (p : Provider) (query : Option String) (k : String) :
    ∃ event, (Step.mk p (.invalidate query)).At k event := by
  have hentry := Cache.lookup_invalidate p.cache query k
  by_cases hk : ∀ q ∈ query, queryKey q = k
  · rw [if_pos hk] at hentry
    exact At.of_entry (by simp [asked?]) (by simp [heard?]) (Or.inl ⟨query, rfl, hk⟩) rfl
      (Or.inr hentry)
  · rw [if_neg hk] at hentry
    refine ⟨.nothing, .nothing rfl rfl ?_⟩
    exact congrArg (KeyState.mk _) hentry

/-- A load that calls the source, or takes in its answer, writes the entry of its key. -/
theorem exists_at_write {s : Step} (h : s.before.Sound) (hl : l ∈ s.before.loads) {stage : LoadStage}
    {entry : CacheEntry} (hwrites : s.Writes l.key) (event : KeyEvent)
    (hafter : s.after = Provider.modifyLoad
      { s.before with cache := (s.before.cache.put l.key entry).value } l.id fun m => { m with stage })
    (hown : s.after.keyState l.key = ⟨some stage, some entry⟩ → s.At l.key event)
    (hasked : ∀ k, s.asked? = some k → k = l.key)
    (hheard : ∀ k a, s.heard? = some (k, a) → k = l.key) : ∃ event, s.At k event := by
  by_cases hk : k = l.key
  · subst hk
    exact ⟨event, hown (hafter ▸ h.keyState_write hl stage entry)⟩
  · obtain ⟨hstage, hentry⟩ := h.keyState_write_of_ne hl stage entry hk hafter
    exact At.of_entry (fun he => hk (hasked k he)) (fun a he => hk (hheard k a he))
      (Or.inr ⟨l.key, hwrites, Ne.symm hk⟩) hstage hentry

theorem exists_at_call (h : p.Sound) (hl : p.load? id = some l) (hs : l.stage = .scheduled)
    (hafter : (Step.mk p (.call id)).after = Provider.modifyLoad
      { p with cache := (p.cache.markPending l.key).value } id fun m => { m with stage := .calling }) :
    ∃ event, (Step.mk p (.call id)).At k event := by
  obtain ⟨hmem, rfl⟩ := mem_of_load? hl
  have hasked := asked?_call hl hs
  rw [markPending_eq_put _ (h.isKey_load hmem)] at hafter
  refine exists_at_write h hmem (Or.inl hasked) .asked hafter ?_ ?_ (by simp [heard?])
  · intro hown
    refine ⟨?_, by simp [hasked], by simp [heard?], by simp⟩
    rw [hown, keyState, h.stage?_of_mem hmem, hs]
    exact .asked _
  · intro k he
    rw [hasked] at he
    exact (Option.some.inj he).symm

theorem exists_at_receive (h : p.Sound) (hl : p.load? id = some l) (hs : l.stage = .calling)
    (hafter : (Step.mk p (.receive id answer)).after = Provider.modifyLoad
      { p with cache := (record p.cache l.key (answer.outcome l.key).value).value } id
        fun m => { m with stage := .finished (answer.outcome l.key).value }) :
    ∃ event, (Step.mk p (.receive id answer)).At k event := by
  obtain ⟨hmem, rfl⟩ := mem_of_load? hl
  have hheard := heard?_receive hl hs answer
  rw [record_eq_put] at hafter
  refine exists_at_write h hmem (Or.inr ⟨answer, hheard⟩) (.heard answer) hafter ?_
    (by simp [asked?]) ?_
  · intro hown
    refine ⟨?_, by simp [asked?], by simp [hheard], by simp⟩
    rw [hown, keyState, h.stage?_of_mem hmem, hs]
    exact .heard _ answer
  · intro k a he
    rw [hheard] at he
    exact (congrArg Prod.fst (Option.some.inj he)).symm

theorem exists_at_settle (h : p.Sound) (hl : p.load? id = some l)
    (hs : l.stage = .finished outcome) {results : List (Nat × WaitResult)}
    (hafter : (Step.mk p (.settle id)).after = { p with
      loads := p.loads.filter fun l => l.id ≠ id
      shared := p.shared.filter fun e => e ≠ (l.key, id)
      results }) :
    ∃ event, (Step.mk p (.settle id)).At k event := by
  obtain ⟨hmem, rfl⟩ := mem_of_load? hl
  have hstage := h.stage?_settled hmem (p.shared.filter fun e => e ≠ (l.key, l.id)) results k
  by_cases hk : k = l.key
  · subst hk
    refine ⟨.left, ?_, by simp [asked?], by simp [heard?], by simp⟩
    rw [hafter, keyState, keyState, hstage, if_pos rfl, h.stage?_of_mem hmem, hs]
    exact .left outcome _
  · refine ⟨.nothing, .nothing rfl rfl ?_⟩
    rw [hafter]
    exact keyState_eq rfl (hstage.trans (if_neg hk))

/-- Each step does one thing to each key. -/
theorem exists_at (s : Step) (h : s.before.Sound) (k : String) : ∃ event, s.At k event := by
  obtain ⟨p, m⟩ := s
  have hm := moved p m
  have hafter : (Step.mk p m).after = p.move m := rfl
  change p.Sound at h
  generalize p.move m = q at hm hafter
  cases hm with
  | idle hasked hheard => exact ⟨.nothing, .nothing hasked hheard (by rw [hafter])⟩
  | told => exact ⟨.nothing, .nothing rfl rfl (by rw [hafter]; exact keyState_eq rfl rfl)⟩
  | scheduled hkey hcached hshared => exact exists_at_schedule h hkey hcached hshared hafter
  | invalidated => exact exists_at_invalidate p _ k
  | called hl hs => exact exists_at_call h hl hs hafter
  | received hl hs => exact exists_at_receive h hl hs hafter
  | settled hl hs => exact exists_at_settle h hl hs hafter
  | @joined waiter query l =>
    -- Only the waiters of a load change, and they do not show.
    refine ⟨.nothing, .nothing rfl rfl ?_⟩
    rw [hafter]
    refine keyState_eq rfl (stage?_map p _ (fun m => ?_) k)
    by_cases hm : m.id = l.id <;> simp [hm]
  | @cancelled waiter =>
    refine ⟨.nothing, .nothing rfl rfl ?_⟩
    rw [hafter]
    refine keyState_eq rfl ?_
    exact stage?_map p (fun l => { l with waiters := l.waiters.filter (· ≠ waiter) })
      (fun m => ⟨rfl, rfl⟩) k

end Step

end Formulary.Provider

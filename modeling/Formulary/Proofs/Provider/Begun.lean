import Formulary.Proofs.Provider.KeyState

/-!
# Loads and their calls

Whoever asks for a key begins a load of it, unless there is no need: the key is blank, held for good,
or has a load that is shared. A load calls the source at most once, and with its own key. So the calls
that somebody causes are those of the loads begun meanwhile, and loads go by number.
-/

namespace Formulary.Provider

variable {p : Provider} {m : Move} {k : String} {id w : Nat}

/-! ## Who begins a load -/

/-- The key is blank, its entry is a success, or it has a load that is shared. -/
def Needless (p : Provider) (k : String) : Prop :=
  k = "" ∨ (∃ e, p.cache.get? k = some e ∧ e.status = .success) ∨ k ∈ p.inFlight

theorem Sound.mem_inFlight_iff (h : p.Sound) :
    k ∈ p.inFlight ↔ ∃ l ∈ p.loads, l.key = k := by
  simp [inFlight, h.shared, Load.tag]

theorem needless_of_cached? {candidates : List Operand} (h : p.cached? k = some candidates) :
    p.Needless k := by
  unfold cached? at h
  split at h
  · rename_i e he
    split at h
    · rename_i hstatus
      exact Or.inr (Or.inl ⟨e, he, hstatus⟩)
    · cases h
  · cases h

theorem Sound.needless_of_sharedLoad? (h : p.Sound) {l : Load} (hl : p.sharedLoad? k = some l) :
    p.Needless k := by
  obtain ⟨hmem, hkey⟩ := h.sharedLoad?_eq_some_iff.mp hl
  exact Or.inr (Or.inr (h.mem_inFlight_iff.mpr ⟨l, hmem, hkey⟩))

theorem Sound.needless_of_known (h : p.Sound) {o : Outcome} (hknown : Known p k o) :
    p.Needless k := by
  cases hknown with
  | blank hblank => exact Or.inl hblank
  | cached _ hcached => exact needless_of_cached? hcached
  | finished _ hl => exact h.needless_of_sharedLoad? hl

theorem Sound.not_needless (h : p.Sound) (hblank : k ≠ "") (hcached : p.cached? k = none)
    (hshared : p.sharedLoad? k = none) : ¬ p.Needless k := by
  rintro (hk | ⟨e, he, hstatus⟩ | hflight)
  · exact hblank hk
  · simp [cached?, he, hstatus] at hcached
  · obtain ⟨l, hl, hkey⟩ := h.mem_inFlight_iff.mp hflight
    exact h.sharedLoad?_eq_none_iff.mp hshared l hl hkey

theorem needless_schedule (p : Provider) (k : String) (w : Nat) : (p.schedule k w).Needless k := by
  right; right
  simp [inFlight, schedule]

/-- Where there is no need for a load, none is begun, and there is no need for one afterwards. -/
theorem Needless.fetch (hneedless : p.Needless k) (h : p.Sound) (hk : queryKey k = k) :
    (p.move (.fetch w k)).loadCount = p.loadCount ∧ (p.move (.fetch w k)).Needless k := by
  have hfetched := fetched p w k
  rw [move]
  generalize (p.fetch w k).value = q at hfetched ⊢
  cases hfetched with
  | told | joined => exact ⟨rfl, hneedless⟩
  | scheduled hblank hcached hshared =>
    rw [hk] at hblank hcached hshared
    exact absurd hneedless (h.not_needless hblank hcached hshared)

theorem Sound.fetch_of_not_needless (h : p.Sound) (hk : queryKey k = k) (hneed : ¬ p.Needless k)
    (w : Nat) : p.move (.fetch w k) = p.schedule k w := by
  have hfetched := fetched p w k
  rw [Provider.move]
  generalize (p.fetch w k).value = q at hfetched ⊢
  cases hfetched with
  | told hknown =>
    rw [hk] at hknown
    exact absurd (h.needless_of_known hknown) hneed
  | joined _ hl =>
    rw [hk] at hl
    exact absurd (h.needless_of_sharedLoad? hl) hneed
  | scheduled => rw [hk]

/-! ## What is known of a load by its number -/

/-- The number has been given to a load, and the load is so as long as it is there. -/
structure Given (P : Load → Prop) (id : Nat) (p : Provider) : Prop where
  lt : id < p.loadCount
  load : ∀ l ∈ p.loads, l.id = id → P l

/-- A load goes on being so: it keeps its key and its number, and is scheduled only at first. -/
def Lasts (P : Load → Prop) : Prop :=
  ∀ l l', l'.tag = l.tag → (l'.stage = .scheduled → l.stage = .scheduled) → P l → P l'

theorem lasts_key (k : String) : Lasts fun l => l.key = k :=
  fun _ _ htag _ hk => (congrArg Prod.fst htag).trans hk

theorem lasts_stage : Lasts fun l => l.stage ≠ .scheduled :=
  fun _ _ _ hstage hne h => hne (hstage h)

/-- A load behind a move was there before, and if it is scheduled it was that before, or it has the
next free number. -/
theorem mem_loads_move {l : Load} (hl : l ∈ (p.move m).loads) :
    (∃ l' ∈ p.loads, l.tag = l'.tag ∧ (l.stage = .scheduled → l'.stage = .scheduled)) ∨
      l.id = p.loadCount := by
  have hm := moved p m
  generalize p.move m = q at hm hl
  cases hm with
  | idle | told | invalidated => exact Or.inl ⟨l, hl, rfl, id⟩
  | settled => exact Or.inl ⟨l, List.mem_of_mem_filter hl, rfl, id⟩
  | cancelled =>
    obtain ⟨l', hl', rfl⟩ := List.mem_map.mp hl
    exact Or.inl ⟨l', hl', rfl, id⟩
  | joined =>
    obtain ⟨l', hl', rfl⟩ := List.mem_map.mp hl
    refine Or.inl ⟨l', hl', ?_⟩
    split <;> exact ⟨rfl, id⟩
  | called | received =>
    obtain ⟨l', hl', rfl⟩ := List.mem_map.mp hl
    refine Or.inl ⟨l', hl', ?_⟩
    split
    · exact ⟨rfl, nofun⟩
    · exact ⟨rfl, id⟩
  | scheduled =>
    rcases List.mem_append.mp hl with hl | hl
    · exact Or.inl ⟨l, hl, rfl, id⟩
    · exact Or.inr (congrArg Load.id (List.mem_singleton.mp hl))

theorem loadCount_le_move (p : Provider) (m : Move) : p.loadCount ≤ (p.move m).loadCount := by
  have hm := moved p m
  generalize p.move m = q at hm ⊢
  cases hm with
  | scheduled => exact Nat.le_succ _
  | idle | told | joined | cancelled | invalidated => exact Nat.le_refl _
  | called | received | settled => exact Nat.le_refl _

theorem Given.move {P : Load → Prop} (h : p.Given P id) (hP : Lasts P) (m : Move) :
    (p.move m).Given P id where
  lt := h.lt.trans_le (loadCount_le_move p m)
  load := by
    rintro l hl rfl
    rcases mem_loads_move hl with ⟨l', hl', htag, hstage⟩ | hnew
    · exact hP l' l htag hstage (h.load l' hl' (congrArg Prod.snd htag).symm)
    · exact absurd hnew h.lt.ne

theorem Sound.given_schedule (h : p.Sound) (k : String) (w : Nat) :
    (p.schedule k w).Given (fun l => l.key = k) p.loadCount where
  lt := Nat.lt_succ_self _
  load := by
    intro l hl hid
    rcases List.mem_append.mp hl with hl | hl
    · exact absurd hid (h.fresh _ (h.tag_mem hl)).ne
    · exact congrArg Load.key (List.mem_singleton.mp hl)

/-! ## The calls of a load -/

/-- The call of the source that a step makes: the number of its load, and the key. -/
def Step.call? (s : Step) : Option (Nat × String) :=
  match s.move with
  | .call id => s.asked?.map fun k => (id, k)
  | _ => none

theorem Step.call?_eq_some {s : Step} (h : s.call? = some (id, k)) :
    s.move = .call id ∧ ∃ l, s.before.load? id = some l ∧ l.key = k ∧ l.stage = .scheduled := by
  unfold call? at h
  split at h
  · rename_i id' hmove
    obtain ⟨k', hasked, heq⟩ := Option.map_eq_some_iff.mp h
    cases heq
    refine ⟨hmove, ?_⟩
    rw [asked?, hmove] at hasked
    dsimp only at hasked
    split at hasked
    · rename_i hl
      cases hasked
      exact ⟨_, hl, rfl, rfl⟩
    · cases hasked
  · cases h

theorem Given.key_of_call? {s : Step} {k' : String} (h : s.before.Given (fun l => l.key = k) id)
    (hcall : s.call? = some (id, k')) : k' = k := by
  obtain ⟨-, l, hl, hkey, -⟩ := Step.call?_eq_some hcall
  obtain ⟨hmem, hid⟩ := mem_of_load? hl
  exact hkey.symm.trans (h.load l hmem hid)

/-- A load that has called the source is scheduled no more. -/
theorem Step.given_of_call? {s : Step} (hs : s.before.Sound) (hcall : s.call? = some (id, k)) :
    s.after.Given (fun l => l.stage ≠ .scheduled) id := by
  obtain ⟨hmove, l, hl, -, hstage⟩ := call?_eq_some hcall
  obtain ⟨hmem, hid⟩ := mem_of_load? hl
  have hafter : s.after = (s.before.call id).value := by rw [after, hmove, Provider.move]
  rw [hafter, call_of_scheduled hl hstage]
  refine ⟨hid ▸ hs.fresh _ (hs.tag_mem hmem), ?_⟩
  intro l' hl' hid'
  obtain ⟨l₀, -, rfl⟩ := List.mem_map.mp hl'
  split at hid'
  · rename_i heq
    simp [heq]
  · rename_i hne
    exact absurd hid' hne

theorem Given.call?_ne {s : Step} (h : s.before.Given (fun l => l.stage ≠ .scheduled) id)
    (k : String) : s.call? ≠ some (id, k) := by
  intro hcall
  obtain ⟨-, l, hl, -, hstage⟩ := Step.call?_eq_some hcall
  obtain ⟨hmem, hid⟩ := mem_of_load? hl
  exact h.load l hmem hid hstage

end Formulary.Provider

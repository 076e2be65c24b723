import Formulary.Proofs.Provider.Run
import Mathlib.Data.List.Nodup

/-!
# Loads and the table of shared loads

The table of shared loads lists exactly the loads under way, each key and each number occurs once in
it, and every key is trimmed and not blank. Hence there is at most one load of a key, and whoever
looks the key up in the table finds it. Every move keeps this.
-/

namespace Formulary

/-- What the table holds of a load. -/
def Load.tag (l : Load) : String × Nat := (l.key, l.id)

namespace Provider

variable {p : Provider} {l l' : Load} {k : String} {id : Nat}

structure Sound (p : Provider) : Prop where
  cache : p.cache.Valid
  shared : p.shared = p.loads.map Load.tag
  keys : (p.shared.map Prod.fst).Nodup
  ids : (p.shared.map Prod.snd).Nodup
  fresh : ∀ e ∈ p.shared, e.2 < p.loadCount
  isKey : ∀ e ∈ p.shared, Cache.IsKey e.1

theorem sound_new {cache : Cache} (h : cache.Valid) : Sound { cache } where
  cache := h
  shared := rfl
  keys := List.nodup_nil
  ids := List.nodup_nil
  fresh := by simp
  isKey := by simp

/-! ## Finding a load -/

theorem Sound.tag_mem (h : p.Sound) (hl : l ∈ p.loads) : l.tag ∈ p.shared :=
  h.shared ▸ List.mem_map_of_mem hl

theorem Sound.isKey_load (h : p.Sound) (hl : l ∈ p.loads) : Cache.IsKey l.key :=
  h.isKey _ (h.tag_mem hl)

theorem Sound.eq_of_key (h : p.Sound) (hl : l ∈ p.loads) (hl' : l' ∈ p.loads)
    (hk : l.key = l'.key) : l = l' := by
  have hnd := h.keys
  rw [h.shared, List.map_map] at hnd
  exact List.inj_on_of_nodup_map hnd hl hl' hk

theorem Sound.eq_of_id (h : p.Sound) (hl : l ∈ p.loads) (hl' : l' ∈ p.loads)
    (hid : l.id = l'.id) : l = l' := by
  have hnd := h.ids
  rw [h.shared, List.map_map] at hnd
  exact List.inj_on_of_nodup_map hnd hl hl' hid

theorem mem_of_load? (h : p.load? id = some l) : l ∈ p.loads ∧ l.id = id :=
  ⟨List.mem_of_find?_eq_some h, by simpa using List.find?_some h⟩

theorem Sound.load?_eq_some (h : p.Sound) (hl : l ∈ p.loads) : p.load? l.id = some l := by
  cases hf : p.load? l.id with
  | none =>
    have hne := List.find?_eq_none.mp hf l hl
    simp at hne
  | some l' =>
    obtain ⟨hl', hid⟩ := mem_of_load? hf
    rw [h.eq_of_id hl' hl hid]

theorem Sound.sharedLoad?_eq_some_iff (h : p.Sound) :
    p.sharedLoad? k = some l ↔ l ∈ p.loads ∧ l.key = k := by
  constructor
  · intro hl
    obtain ⟨id, hid, hl⟩ := Option.bind_eq_some_iff.mp hl
    have hmem : (k, id) ∈ p.loads.map Load.tag := h.shared ▸ Cache.mem_of_lookup hid
    obtain ⟨l', hl', htag⟩ := List.mem_map.mp hmem
    obtain ⟨hmem, hid'⟩ := mem_of_load? hl
    have he : l = l' := h.eq_of_id hmem hl' (hid'.trans (congrArg Prod.snd htag).symm)
    exact ⟨hmem, he ▸ congrArg Prod.fst htag⟩
  · rintro ⟨hl, rfl⟩
    cases hid : p.shared.lookup l.key with
    | none =>
      have hne := List.lookup_eq_none_iff.mp hid _ (h.tag_mem hl)
      simp [Load.tag] at hne
    | some id =>
      have hmem : (l.key, id) ∈ p.loads.map Load.tag := h.shared ▸ Cache.mem_of_lookup hid
      obtain ⟨l', hl', htag⟩ := List.mem_map.mp hmem
      have he : l' = l := h.eq_of_key hl' hl (congrArg Prod.fst htag)
      have hid' : l.id = id := he ▸ congrArg Prod.snd htag
      rw [sharedLoad?, hid, ← hid']
      exact h.load?_eq_some hl

theorem Sound.sharedLoad?_eq_none_iff (h : p.Sound) :
    p.sharedLoad? k = none ↔ ∀ l ∈ p.loads, l.key ≠ k := by
  rw [Option.eq_none_iff_forall_ne_some]
  constructor
  · intro hn l hl hk
    exact hn l (h.sharedLoad?_eq_some_iff.mpr ⟨hl, hk⟩)
  · intro hn l hl
    obtain ⟨hmem, hk⟩ := h.sharedLoad?_eq_some_iff.mp hl
    exact hn l hmem hk

theorem mem_modifyLoad (hl : l ∈ p.loads) (cache : Cache) (change : Load → Load) :
    change l ∈ (Provider.modifyLoad { p with cache } l.id change).loads := by
  have hmem := List.mem_map_of_mem (f := fun m => if m.id = l.id then change m else m) hl
  rwa [if_pos rfl] at hmem

theorem mem_modifyLoad_of_ne (hl : l ∈ p.loads) (hid : l.id ≠ id) (cache : Cache)
    (change : Load → Load) : l ∈ (Provider.modifyLoad { p with cache } id change).loads := by
  have hmem := List.mem_map_of_mem (f := fun m => if m.id = id then change m else m) hl
  rwa [if_neg hid] at hmem

/-! ## Moves keep the table -/

theorem Sound.of_tags {q : Provider} (h : p.Sound) (hcache : q.cache.Valid)
    (hloads : q.loads.map Load.tag = p.loads.map Load.tag) (hshared : q.shared = p.shared)
    (hcount : q.loadCount = p.loadCount) : q.Sound where
  cache := hcache
  shared := by rw [hshared, hloads, h.shared]
  keys := hshared ▸ h.keys
  ids := hshared ▸ h.ids
  fresh := hcount ▸ hshared ▸ h.fresh
  isKey := hshared ▸ h.isKey

theorem map_tag_modifyLoad (p : Provider) (id : Nat) {change : Load → Load}
    (h : ∀ l, (change l).tag = l.tag) :
    (p.modifyLoad id change).loads.map Load.tag = p.loads.map Load.tag := by
  rw [modifyLoad, List.map_map]
  apply List.map_congr_left
  intro l _
  by_cases hl : l.id = id <;> simp [hl, h]

theorem Sound.modifyLoad (h : p.Sound) {cache : Cache} (hcache : cache.Valid) (id : Nat)
    {change : Load → Load} (hchange : ∀ l, (change l).tag = l.tag) :
    (Provider.modifyLoad { p with cache } id change).Sound :=
  h.of_tags hcache (map_tag_modifyLoad { p with cache } id hchange) rfl rfl

theorem Sound.schedule (h : p.Sound) (hk : Cache.IsKey k) (hnew : p.sharedLoad? k = none)
    (waiter : Nat) : (p.schedule k waiter).Sound where
  cache := h.cache
  shared := by simp [Provider.schedule, h.shared, Load.tag]
  keys := by
    rw [Provider.schedule, List.map_append, List.nodup_append]
    refine ⟨h.keys, by simp, ?_⟩
    intro a ha b hb hab
    have hb' : b = k := by simpa using hb
    subst hab hb'
    rw [h.shared, List.map_map] at ha
    obtain ⟨l, hl, hkey⟩ := List.mem_map.mp ha
    exact h.sharedLoad?_eq_none_iff.mp hnew l hl hkey
  ids := by
    rw [Provider.schedule, List.map_append, List.nodup_append]
    refine ⟨h.ids, by simp, ?_⟩
    intro a ha b hb hab
    have hb' : b = p.loadCount := by simpa using hb
    obtain ⟨e, he, hea⟩ := List.mem_map.mp ha
    have hlt := h.fresh e he
    omega
  fresh := by
    intro e he
    change e.2 < p.loadCount + 1
    rcases List.mem_append.mp he with he | he
    · have hlt := h.fresh e he
      omega
    · rw [List.mem_singleton.mp he]
      exact Nat.lt_succ_self _
  isKey := by
    intro e he
    rcases List.mem_append.mp he with he | he
    · exact h.isKey e he
    · rw [List.mem_singleton.mp he]
      exact hk

/-- Numbers occur once, so that a load leaves the table together with its entry. -/
theorem Sound.filter_tag (h : p.Sound) (hl : l ∈ p.loads) :
    p.shared.filter (fun e => e ≠ l.tag) =
      (p.loads.filter fun m => m.id ≠ l.id).map Load.tag := by
  rw [h.shared, List.filter_map]
  congr 1
  apply List.filter_congr
  intro m hm
  by_cases hid : m.id = l.id
  · rw [h.eq_of_id hm hl hid]
    simp
  · have htag : m.tag ≠ l.tag := fun he => hid (congrArg Prod.snd he)
    simp [hid, htag]

theorem Sound.settled (h : p.Sound) (hl : l ∈ p.loads) (results : List (Nat × WaitResult)) :
    Sound { p with
      loads := p.loads.filter fun m => m.id ≠ l.id
      shared := p.shared.filter fun e => e ≠ l.tag
      results } where
  cache := h.cache
  shared := h.filter_tag hl
  keys := h.keys.sublist (List.filter_sublist.map _)
  ids := h.ids.sublist (List.filter_sublist.map _)
  fresh := fun e he => h.fresh e (List.mem_of_mem_filter he)
  isKey := fun e he => h.isKey e (List.mem_of_mem_filter he)

/-- The entry that a load leaves behind. -/
def entryOf : Outcome → CacheEntry
  | .ok candidates => { status := .success, data := candidates }
  | .error e => { status := .error, error := some e.message }

theorem record_eq_put (cache : Cache) (key : String) (outcome : Outcome) :
    record cache key outcome = cache.put key (entryOf outcome) := by
  cases outcome <;> rfl

theorem valid_record {cache : Cache} (h : cache.Valid) (key : String) (outcome : Outcome) :
    (record cache key outcome).value.Valid := by
  rw [record_eq_put]
  exact h.put key _

theorem Sound.move (h : p.Sound) (m : Move) : (p.move m).Sound := by
  have hm := moved p m
  generalize p.move m = q at hm ⊢
  cases hm with
  | idle => exact h
  | told => exact h.of_tags h.cache rfl rfl rfl
  | scheduled hkey _ hshared => exact h.schedule (Cache.isKey_queryKey hkey) hshared _
  | joined => exact h.modifyLoad h.cache _ fun _ => rfl
  | cancelled => exact h.of_tags h.cache (by simp [finish, Load.tag]) rfl rfl
  | invalidated => exact h.of_tags (h.cache.invalidate _) rfl rfl rfl
  | called => exact h.modifyLoad (h.cache.put _ _) _ fun _ => rfl
  | received => exact h.modifyLoad (valid_record h.cache _ _) _ fun _ => rfl
  | settled hl =>
    obtain ⟨hmem, rfl⟩ := mem_of_load? hl
    exact h.settled hmem _

theorem Sound.run (h : p.Sound) (moves : List Move) : (p.run moves).Sound :=
  run_induction h (fun _ m hq => hq.move m) moves

end Provider

end Formulary

import Formulary.Suggestion.Cache
import Mathlib.Data.List.Nodup

/-!
# Entries of the cache

A cache of the program keeps one entry a key, keys are trimmed and not blank, and there are never more
entries than fit. A write puts the entry of its key in place and drops at most the entry that was
written longest ago; every other entry stays as it is.
-/

namespace Formulary.Cache

variable {c : Cache} {k query : String} {entry : CacheEntry}

/-- A key as the cache keeps it: trimmed and not blank. -/
def IsKey (k : String) : Prop := k ≠ "" ∧ queryKey k = k

theorem isKey_queryKey (h : queryKey query ≠ "") : IsKey (queryKey query) :=
  ⟨h, Text.trim_trim query⟩

/-- The shape of every cache that the program builds. -/
structure Valid (c : Cache) : Prop where
  nodup : c.keys.Nodup
  isKey : ∀ k ∈ c.keys, IsKey k
  bounded : c.size ≤ c.capacity

theorem ofCapacity_eq {size : Int} (h : ofCapacity size = .ok c) :
    c.entries = [] ∧ (c.capacity : Int) = size := by
  unfold ofCapacity at h
  split at h
  · cases h
    exact ⟨rfl, by simp; omega⟩
  · cases h

theorem valid_of_entries_nil (h : c.entries = []) : c.Valid where
  nodup := by simp [keys, h]
  isKey := by simp [keys, h]
  bounded := by simp [size, h]

/-! ## Looking up a key -/

theorem mem_of_lookup {α β : Type} [BEq α] [LawfulBEq α] {k : α} {x : β} {entries : List (α × β)}
    (h : entries.lookup k = some x) : (k, x) ∈ entries := by
  obtain ⟨l₁, l₂, rfl, -⟩ := List.lookup_eq_some_iff.mp h
  simp

theorem Valid.key_ne_of_get? (hc : c.Valid) (h : c.get? query = some entry) :
    queryKey query ≠ "" :=
  (hc.isKey _ (List.mem_map_of_mem (mem_of_lookup h))).1

theorem Valid.get?_of_mem (hc : c.Valid) {e : String × CacheEntry} (he : e ∈ c.entries) :
    c.get? e.1 = some e.2 := by
  have hk := (hc.isKey e.1 (List.mem_map_of_mem he)).2
  rw [get?, hk]
  cases hx : c.entries.lookup e.1 with
  | none =>
    have hne := List.lookup_eq_none_iff.mp hx e he
    simp at hne
  | some x => rw [← List.inj_on_of_nodup_map hc.nodup (mem_of_lookup hx) he rfl]

theorem lookup_without_self (k : String) (entries : List (String × CacheEntry)) :
    (without k entries).lookup k = none := by
  rw [List.lookup_eq_none_iff]
  intro e he
  have hne : e.1 ≠ k := of_decide_eq_true (List.mem_filter.mp he).2
  exact bne_iff_ne.mpr hne.symm

/-- What is left out of a table makes no difference to another key. -/
theorem lookup_filter_of_ne {α β : Type} [BEq α] [LawfulBEq α] [DecidableEq α] {k key : α}
    (h : k ≠ key) (entries : List (α × β)) :
    (entries.filter fun e => e.1 ≠ key).lookup k = entries.lookup k := by
  induction entries with
  | nil => rfl
  | cons e rest ih =>
    obtain ⟨a, x⟩ := e
    by_cases ha : a = key
    · have hka : (k == a) = false := beq_false_of_ne (ha ▸ h)
      rw [List.filter_cons_of_neg (by simp [ha]), ih, List.lookup_cons, hka]
    · rw [List.filter_cons_of_pos (by simp [ha]), List.lookup_cons, List.lookup_cons, ih]

theorem lookup_without_of_ne {key : String} (h : k ≠ key) (entries : List (String × CacheEntry)) :
    (without key entries).lookup k = entries.lookup k :=
  lookup_filter_of_ne h entries

/-- A key that survives the loss of entries at the front keeps its entry. -/
theorem lookup_drop (entries : List (String × CacheEntry)) (h : (entries.map Prod.fst).Nodup)
    (n : Nat) (k : String) :
    (entries.drop n).lookup k = entries.lookup k ∨ (entries.drop n).lookup k = none := by
  induction entries generalizing n with
  | nil => simp
  | cons e rest ih =>
    obtain ⟨a, x⟩ := e
    simp only [List.map_cons, List.nodup_cons] at h
    cases n with
    | zero => exact Or.inl rfl
    | succ n =>
      rw [List.drop_succ_cons, List.lookup_cons]
      by_cases hka : k = a
      · right
        rw [List.lookup_eq_none_iff]
        intro y hy
        apply bne_iff_ne.mpr
        rintro rfl
        exact h.1 (hka ▸ List.mem_map_of_mem (List.mem_of_mem_drop hy))
      · have hf : (k == a) = false := beq_false_of_ne hka
        simpa only [hf] using ih h.2 n

theorem keys_without_sublist (key : String) (entries : List (String × CacheEntry)) :
    ((without key entries).map Prod.fst).Sublist (entries.map Prod.fst) :=
  List.filter_sublist.map Prod.fst

theorem not_mem_keys_without (key : String) (entries : List (String × CacheEntry)) :
    key ∉ (without key entries).map Prod.fst := by
  intro h
  obtain ⟨e, he, rfl⟩ := List.mem_map.mp h
  simpa using (List.mem_filter.mp he).2

/-! ## Writing -/

/-- The entries behind a write before the oldest ones leave. -/
def written (c : Cache) (key : String) (entry : CacheEntry) : List (String × CacheEntry) :=
  without key c.entries ++ [(key, entry)]

theorem put_blank (h : queryKey query = "") : (c.put query entry).value = c := by
  simp [put, h]

theorem entries_put (h : queryKey query ≠ "") :
    (c.put query entry).value.entries =
      (c.written (queryKey query) entry).drop
        ((c.written (queryKey query) entry).length - c.capacity) := by
  simp [put, h, written]

@[simp] theorem capacity_put (c : Cache) (query : String) (entry : CacheEntry) :
    (c.put query entry).value.capacity = c.capacity := by
  by_cases h : queryKey query = "" <;> simp [put, h]

theorem nodup_written (hc : c.Valid) (key : String) (entry : CacheEntry) :
    ((c.written key entry).map Prod.fst).Nodup := by
  rw [written, List.map_append, List.nodup_append]
  refine ⟨hc.nodup.sublist (keys_without_sublist key c.entries), by simp, ?_⟩
  intro a ha b hb hab
  have hb' : b = key := by simpa using hb
  subst hab hb'
  exact not_mem_keys_without _ _ ha

theorem lookup_written_of_ne (c : Cache) {key : String} (h : k ≠ key) (entry : CacheEntry) :
    (c.written key entry).lookup k = c.entries.lookup k := by
  simp [written, List.lookup_append, lookup_without_of_ne h, List.lookup_cons, beq_false_of_ne h]

theorem Valid.put (hc : c.Valid) (query : String) (entry : CacheEntry) :
    (c.put query entry).value.Valid := by
  by_cases hq : queryKey query = ""
  · rwa [put_blank hq]
  have hsub := (List.drop_sublist ((c.written (queryKey query) entry).length - c.capacity)
    (c.written (queryKey query) entry)).map Prod.fst
  refine ⟨?_, ?_, ?_⟩
  · rw [keys, entries_put hq]
    exact (nodup_written hc _ _).sublist hsub
  · intro k hk
    rw [keys, entries_put hq] at hk
    have hk' := hsub.subset hk
    rw [written, List.map_append, List.mem_append] at hk'
    rcases hk' with hk' | hk'
    · exact hc.isKey k ((keys_without_sublist _ _).subset hk')
    · have heq : k = queryKey query := by simpa using hk'
      rw [heq]
      exact isKey_queryKey hq
  · rw [size, entries_put hq, capacity_put, List.length_drop]
    omega

theorem lookup_put_self (h : queryKey query ≠ "") :
    (c.put query entry).value.entries.lookup (queryKey query) = some entry := by
  rw [entries_put h, written, List.drop_append_of_le_length, List.lookup_append]
  · rw [show ((without (queryKey query) c.entries).drop _).lookup (queryKey query) = none from ?_]
    · simp
    · exact (List.drop_sublist _ _).lookup_eq_none (lookup_without_self _ _)
  · have hpos := c.capacity_pos
    simp only [List.length_append, List.length_singleton]
    omega

theorem lookup_put_of_ne (hc : c.Valid) (h : k ≠ queryKey query) :
    (c.put query entry).value.entries.lookup k = c.entries.lookup k ∨
      (c.put query entry).value.entries.lookup k = none := by
  by_cases hq : queryKey query = ""
  · exact Or.inl (by rw [put_blank hq])
  · rw [entries_put hq, ← lookup_written_of_ne c h entry]
    exact lookup_drop _ (nodup_written hc _ _) _ k

/-! ## Dropping -/

@[simp] theorem capacity_invalidate (c : Cache) (query : Option String) :
    (c.invalidate query).capacity = c.capacity := by
  cases query <;> rfl

theorem keys_invalidate_sublist (c : Cache) (query : Option String) :
    (c.invalidate query).keys.Sublist c.keys := by
  cases query with
  | none => exact List.nil_sublist _
  | some q => exact keys_without_sublist (queryKey q) c.entries

theorem Valid.invalidate (hc : c.Valid) (query : Option String) : (c.invalidate query).Valid := by
  cases query with
  | none => exact valid_of_entries_nil rfl
  | some q =>
    have hsub := keys_without_sublist (queryKey q) c.entries
    refine ⟨hc.nodup.sublist hsub, fun k hk => hc.isKey k (hsub.subset hk), ?_⟩
    exact Nat.le_trans (List.length_filter_le _ _) hc.bounded

theorem lookup_invalidate (c : Cache) (query : Option String) (k : String) :
    (c.invalidate query).entries.lookup k =
      if ∀ q ∈ query, queryKey q = k then none else c.entries.lookup k := by
  cases query with
  | none => simp [Cache.invalidate]
  | some q =>
    by_cases h : k = queryKey q
    · subst h
      simp [Cache.invalidate, lookup_without_self]
    · simp [Cache.invalidate, lookup_without_of_ne h, Ne.symm h]

end Formulary.Cache

import Formulary.Proofs.Cache
import Mathlib.Data.List.Dedup
import Mathlib.Data.List.DropRight

/-!
# The last writes of a cache

What a cache holds is told by what was written to it. Its keys stand in the order of their last
writes, and each entry has the status that was written last. As long as nothing is dropped, the keys
are exactly those written last, as many as fit. All that is needed about a single access is in
`Accessed`.
-/

namespace Formulary.Cache

/-- What can be done with a cache. -/
inductive Access where
  | get (query : String)
  | contains (query : String)
  | set (query : String) (candidates : List Operand)
  | markPending (query : String)
  | markError (query message : String)
  | invalidate (query : Option String)

def access (c : Cache) : Access → Cache
  | .get _ | .contains _ => c
  | .set query candidates => (c.set query candidates).value
  | .markPending query => (c.markPending query).value
  | .markError query message => (c.markError query message).value
  | .invalidate query => c.invalidate query

def run (c : Cache) (accesses : List Access) : Cache := accesses.foldl access c

namespace Access

/-- The query and the status that an access writes, if it writes any. -/
def marks? : Access → Option (String × QueryStatus)
  | .set query _ => some (query, .success)
  | .markPending query => some (query, .pending)
  | .markError query _ => some (query, .error)
  | .get _ | .contains _ | .invalidate _ => none

/-- The key that is written, with its status. A blank query has no key. -/
def write? (a : Access) : Option (String × QueryStatus) := do
  let (query, status) ← a.marks?
  if queryKey query = "" then none else some (queryKey query, status)

def Drops : Access → Prop
  | .invalidate _ => True
  | _ => False

end Access

/-- The writes among some accesses, the first one first. -/
def writes (accesses : List Access) : List (String × QueryStatus) := accesses.filterMap Access.write?

/-- The keys that were written, in the order of their last writes. -/
def recent (accesses : List Access) : List String := ((writes accesses).map Prod.fst).dedup

/-- The status that was written last for a key. -/
def lastStatus? (accesses : List Access) (k : String) : Option QueryStatus :=
  (writes accesses).reverse.lookup k

variable {c d : Cache} {k query : String} {entry : CacheEntry}

theorem run_concat (c : Cache) (accesses : List Access) (a : Access) :
    c.run (accesses ++ [a]) = (c.run accesses).access a := by
  simp [run]

/-! ## One access -/

/-- The cases of an access. -/
inductive Accessed (c : Cache) (a : Access) : Cache → Prop where
  | kept (hwrite : a.write? = none) (hdrops : ¬ a.Drops) : Accessed c a c
  | dropped {query : Option String} (ha : a = .invalidate query) : Accessed c a (c.invalidate query)
  | written {query : String} {entry : CacheEntry} (hkey : queryKey query ≠ "")
      (hwrite : a.write? = some (queryKey query, entry.status)) (hdrops : ¬ a.Drops) :
      Accessed c a (c.put query entry).value

theorem accessed_put {a : Access} (hmarks : a.marks? = some (query, entry.status))
    (hdrops : ¬ a.Drops) : Accessed c a (c.put query entry).value := by
  by_cases hkey : queryKey query = ""
  · rw [put_blank hkey]
    exact .kept (by simp [Access.write?, hmarks, hkey]) hdrops
  · exact .written hkey (by simp [Access.write?, hmarks, hkey]) hdrops

theorem accessed (c : Cache) (a : Access) : Accessed c a (c.access a) := by
  cases a with
  | get query => exact .kept rfl id
  | contains query => exact .kept rfl id
  | set query candidates => exact accessed_put rfl id
  | markPending query => exact accessed_put rfl id
  | markError query message => exact accessed_put rfl id
  | invalidate query => exact .dropped rfl

theorem Valid.access (hc : c.Valid) (a : Access) : (c.access a).Valid := by
  have ha := accessed c a
  generalize c.access a = d at ha ⊢
  cases ha with
  | kept => exact hc
  | dropped => exact hc.invalidate _
  | written => exact hc.put _ _

theorem capacity_access (c : Cache) (a : Access) : (c.access a).capacity = c.capacity := by
  have ha := accessed c a
  generalize c.access a = d at ha ⊢
  cases ha with
  | kept => rfl
  | dropped => exact capacity_invalidate c _
  | written => exact capacity_put c _ _

theorem Valid.run (hc : c.Valid) (accesses : List Access) : (c.run accesses).Valid := by
  induction accesses using List.reverseRecOn with
  | nil => exact hc
  | append_singleton accesses a ih =>
    rw [run_concat]
    exact ih.access a

theorem capacity_run (c : Cache) (accesses : List Access) :
    (c.run accesses).capacity = c.capacity := by
  induction accesses using List.reverseRecOn with
  | nil => rfl
  | append_singleton accesses a ih => rw [run_concat, capacity_access, ih]

/-! ## The keys -/

theorem keys_without (key : String) (entries : List (String × CacheEntry)) :
    (without key entries).map Prod.fst = (entries.map Prod.fst).filter fun k => k ≠ key := by
  rw [without, List.filter_map]
  rfl

/-- The key that is written goes behind the others, and of all the last ones stay that fit. -/
theorem keys_put (h : queryKey query ≠ "") :
    (c.put query entry).value.keys =
      ((c.keys.filter fun k => k ≠ queryKey query) ++ [queryKey query]).rtake c.capacity := by
  rw [keys, entries_put h, List.rtake, List.map_drop, keys, ← keys_without]
  simp [written]

section Last

variable {α : Type} [DecidableEq α] {l : List α}

theorem dedup_concat (l : List α) (k : α) :
    (l ++ [k]).dedup = (l.dedup.filter fun x => x ≠ k) ++ [k] := by
  induction l with
  | nil => rfl
  | cons x l ih =>
    rw [List.cons_append, List.dedup_cons, List.dedup_cons, ih]
    by_cases hx : x ∈ l
    · simp [hx]
    · by_cases hk : x = k
      · subst hk
        simp [hx]
      · simp [hx, hk]

omit [DecidableEq α] in
/-- Of two lists behind each other the last elements are those of the second one, if it is long
enough. -/
theorem rtake_append_of_le {l₁ l₂ : List α} {n : Nat} (h : n ≤ l₂.length) :
    (l₁ ++ l₂).rtake n = l₂.rtake n := by
  have hlen : (l₁ ++ l₂).length - n = l₁.length + (l₂.length - n) := by
    rw [List.length_append]
    omega
  rw [List.rtake, List.rtake, hlen, List.drop_length_add_append]

theorem length_filter_ne (h : l.Nodup) (k : α) :
    l.length ≤ (l.filter fun x => x ≠ k).length + 1 := by
  have herase : l.erase k = l.filter fun x => x ≠ k := by
    rw [h.erase_eq_filter]
    simp [bne, beq_eq_decide]
  have hle := List.le_length_erase (a := k) (l := l)
  rw [herase] at hle
  omega

/-- What does not fit at one time need not be kept for the next time. -/
theorem rtake_filter_rtake (h : l.Nodup) (k : α) {n : Nat} (hn : 0 < n) :
    (((l.rtake n).filter fun x => x ≠ k) ++ [k]).rtake n =
      ((l.filter fun x => x ≠ k) ++ [k]).rtake n := by
  obtain ⟨m, rfl⟩ := Nat.exists_eq_succ_of_ne_zero (Nat.pos_iff_ne_zero.mp hn)
  rw [Nat.succ_eq_add_one, List.rtake_concat_succ, List.rtake_concat_succ]
  congr 1
  by_cases hm : l.length ≤ m + 1
  · have hall : l.rtake (m + 1) = l := by
      rw [List.rtake, Nat.sub_eq_zero_of_le hm, List.drop_zero]
    rw [hall]
  · have hsplit : l.take (l.length - (m + 1)) ++ l.rtake (m + 1) = l := List.take_append_drop _ l
    have hlen : (l.rtake (m + 1)).length = m + 1 := by
      rw [List.rtake, List.length_drop]
      omega
    have hnodup : (l.rtake (m + 1)).Nodup := h.sublist (List.drop_sublist _ l)
    have hle := length_filter_ne hnodup k
    conv_rhs => rw [← hsplit, List.filter_append]
    rw [rtake_append_of_le (by omega)]

end Last

theorem writes_concat (accesses : List Access) (a : Access) :
    writes (accesses ++ [a]) = writes accesses ++ a.write?.toList := by
  rw [writes, writes, List.filterMap_append]
  cases h : a.write? <;> simp [h]

theorem recent_concat_of_none {a : Access} (h : a.write? = none) (accesses : List Access) :
    recent (accesses ++ [a]) = recent accesses := by
  simp [recent, writes_concat, h]

theorem recent_concat_of_some {a : Access} {status : QueryStatus} (h : a.write? = some (k, status))
    (accesses : List Access) :
    recent (accesses ++ [a]) = (recent accesses).filter (fun x => x ≠ k) ++ [k] := by
  rw [recent, writes_concat, h, List.map_append]
  exact dedup_concat _ k

theorem Access.write?_of_drops {a : Access} (h : a.Drops) : a.write? = none := by
  cases a with
  | invalidate => rfl
  | get | contains | set | markPending | markError => exact h.elim

/-- The keys of a cache that was empty at first are in the order of their last writes. -/
theorem keys_sublist_recent (hempty : c.entries = []) (accesses : List Access) :
    (c.run accesses).keys.Sublist (recent accesses) := by
  induction accesses using List.reverseRecOn with
  | nil => simp [run, keys, hempty]
  | append_singleton accesses a ih =>
    rw [run_concat]
    have ha := accessed (c.run accesses) a
    generalize (c.run accesses).access a = d at ha ⊢
    cases ha with
    | kept hwrite => rwa [recent_concat_of_none hwrite]
    | dropped hinvalidate =>
      rw [recent_concat_of_none (Access.write?_of_drops (hinvalidate ▸ trivial))]
      exact (keys_invalidate_sublist _ _).trans ih
    | written hkey hwrite =>
      rw [recent_concat_of_some hwrite, keys_put hkey]
      exact (List.drop_sublist _ _).trans ((ih.filter _).append_right _)

/-- As long as nothing is dropped, a cache that was empty at first holds the keys written last. -/
theorem keys_run (hempty : c.entries = []) {accesses : List Access}
    (hkept : ∀ a ∈ accesses, ¬ a.Drops) :
    (c.run accesses).keys = (recent accesses).rtake c.capacity := by
  induction accesses using List.reverseRecOn with
  | nil => simp [run, keys, hempty, recent, writes]
  | append_singleton accesses a ih =>
    have ih := ih fun b hb => hkept b (List.mem_append_left _ hb)
    have ha := accessed (c.run accesses) a
    rw [run_concat]
    generalize (c.run accesses).access a = d at ha ⊢
    cases ha with
    | kept hwrite => rw [recent_concat_of_none hwrite, ih]
    | dropped hinvalidate =>
      have hdrops : a.Drops := hinvalidate ▸ trivial
      exact absurd hdrops (hkept a (by simp))
    | written hkey hwrite =>
      have hnodup : (recent accesses).Nodup := List.nodup_dedup _
      rw [recent_concat_of_some hwrite, keys_put hkey, ih, capacity_run]
      exact rtake_filter_rtake hnodup _ c.capacity_pos

/-! ## The entries -/

theorem lastStatus?_concat (accesses : List Access) (a : Access) (k : String) :
    lastStatus? (accesses ++ [a]) k =
      match a.write? with
      | some (key, status) => if k = key then some status else lastStatus? accesses k
      | none => lastStatus? accesses k := by
  rw [lastStatus?, writes_concat]
  cases a.write? with
  | none => simp [lastStatus?]
  | some w =>
    obtain ⟨key, status⟩ := w
    by_cases hk : k = key
    · simp [hk]
    · simp [lastStatus?, List.lookup_cons, beq_false_of_ne hk, hk]

/-- The status of an entry was written by the last write of its key. -/
theorem status_run (hempty : c.entries = []) (accesses : List Access)
    (hlookup : (c.run accesses).entries.lookup k = some entry) :
    lastStatus? accesses k = some entry.status := by
  induction accesses using List.reverseRecOn with
  | nil => simp [run, hempty] at hlookup
  | append_singleton accesses a ih =>
    rw [run_concat] at hlookup
    have hvalid : (c.run accesses).Valid := (valid_of_entries_nil hempty).run accesses
    have ha := accessed (c.run accesses) a
    generalize (c.run accesses).access a = d at ha hlookup
    rw [lastStatus?_concat]
    cases ha with
    | kept hwrite =>
      rw [hwrite]
      exact ih hlookup
    | dropped hinvalidate =>
      rw [Access.write?_of_drops (hinvalidate ▸ trivial)]
      rw [lookup_invalidate] at hlookup
      split at hlookup
      · cases hlookup
      · exact ih hlookup
    | @written query e hkey hwrite =>
      rw [hwrite]
      by_cases hk : k = queryKey query
      · subst hk
        rw [lookup_put_self hkey] at hlookup
        cases hlookup
        exact if_pos rfl
      · have hput : ((c.run accesses).put query e).value.entries.lookup k =
              (c.run accesses).entries.lookup k ∨
            ((c.run accesses).put query e).value.entries.lookup k = none :=
          lookup_put_of_ne hvalid hk
        rcases hput with hsame | hgone
        · rw [hsame] at hlookup
          exact (if_neg hk).trans (ih hlookup)
        · rw [hgone] at hlookup
          cases hlookup

/-! ## A write -/

/-- A write of a key that the cache holds already, or has room for, makes no other entry leave. -/
theorem entries_put_of_room (hc : c.Valid) (hkey : queryKey query ≠ "")
    (hroom : queryKey query ∈ c.keys ∨ c.size < c.capacity) :
    (c.put query entry).value.entries = c.written (queryKey query) entry := by
  have hlen : (without (queryKey query) c.entries).length < c.capacity := by
    rcases hroom with hmem | hlt
    · obtain ⟨e, he, hek⟩ := List.mem_map.mp hmem
      have hdrop : (without (queryKey query) c.entries).length < c.entries.length :=
        List.length_filter_lt_length_iff_exists.mpr ⟨e, he, by simp [hek]⟩
      exact Nat.lt_of_lt_of_le hdrop hc.bounded
    · exact Nat.lt_of_le_of_lt (List.length_filter_le _ _) hlt
  have hle : (c.written (queryKey query) entry).length - c.capacity = 0 := by
    rw [written, List.length_append, List.length_singleton]
    omega
  rw [entries_put hkey, hle, List.drop_zero]

/-- A write of a new key to a full cache makes the entry at the front leave, and no other one. -/
theorem entries_put_of_full (hkey : queryKey query ≠ "") (hnew : queryKey query ∉ c.keys)
    (hfull : c.size = c.capacity) :
    (c.put query entry).value.entries = c.entries.tail ++ [(queryKey query, entry)] := by
  have hwithout : without (queryKey query) c.entries = c.entries := by
    rw [without, List.filter_eq_self]
    intro e he
    exact decide_eq_true fun hk => hnew (hk ▸ List.mem_map_of_mem he)
  have hpos := c.capacity_pos
  rw [← hfull, size] at hpos
  have hone : (c.written (queryKey query) entry).length - c.capacity = 1 := by
    rw [written, hwithout, ← hfull, size, List.length_append, List.length_singleton]
    omega
  rw [entries_put hkey, hone, written, hwithout, List.drop_append_of_le_length hpos, List.drop_one]

/-- What a write does to a cache. -/
structure Overwrites (c d : Cache) (k : String) (status : QueryStatus) : Prop where
  last : d.keys.getLast? = some k
  own : ∃ e, d.entries.lookup k = some e ∧ e.status = status
  /-- Another entry stays as it is. It leaves if it was written longest ago and there is no room. -/
  others : ∀ k' ≠ k, d.entries.lookup k' = c.entries.lookup k' ∨
    (c.keys.head? = some k' ∧ k ∉ c.keys ∧ c.size = c.capacity ∧ d.entries.lookup k' = none)

theorem overwrites_put (hc : c.Valid) (hkey : queryKey query ≠ "") (entry : CacheEntry) :
    Overwrites c (c.put query entry).value (queryKey query) entry.status where
  last := by
    obtain ⟨m, hm⟩ := Nat.exists_eq_succ_of_ne_zero (Nat.pos_iff_ne_zero.mp c.capacity_pos)
    rw [keys_put hkey, hm, Nat.succ_eq_add_one, List.rtake_concat_succ, List.getLast?_concat]
  own := ⟨entry, lookup_put_self hkey, rfl⟩
  others := by
    intro k' hk'
    by_cases hroom : queryKey query ∈ c.keys ∨ c.size < c.capacity
    · left
      rw [entries_put_of_room hc hkey hroom, lookup_written_of_ne c hk']
    · obtain ⟨hnew, hsize⟩ := not_or.mp hroom
      have hfull : c.size = c.capacity := Nat.le_antisymm hc.bounded (Nat.le_of_not_lt hsize)
      have hpos : 0 < c.entries.length := Nat.lt_of_lt_of_eq c.capacity_pos hfull.symm
      obtain ⟨⟨oldest, e⟩, rest, hentries⟩ := List.exists_cons_of_length_pos hpos
      have hnodup := hc.nodup
      simp only [keys, hentries, List.map_cons, List.nodup_cons] at hnodup
      have hrest : (c.put query entry).value.entries.lookup k' = rest.lookup k' := by
        simp [entries_put_of_full hkey hnew hfull, hentries, List.lookup_append, List.lookup_cons,
          beq_false_of_ne hk']
      by_cases hold : k' = oldest
      · right
        subst hold
        refine ⟨by simp [keys, hentries], hnew, hfull, ?_⟩
        rw [hrest, List.lookup_eq_none_iff]
        intro x hx
        exact bne_iff_ne.mpr fun heq => hnodup.1 (heq ▸ List.mem_map_of_mem hx)
      · left
        rw [hrest, hentries, List.lookup_cons, beq_false_of_ne hold]

/-- A cache holds trimmed keys that are not empty, each once, at most as many as fit, and in the order
of their last writes. A read changes nothing, and a write only what it overwrites. From an empty cache
on, as long as nothing is dropped, the keys are those written last. -/
theorem holds_last_writes {size : Int} {cache : Cache} (hcache : ofCapacity size = .ok cache)
    (accesses : List Access) :
    let c := cache.run accesses
    (c.keys.Nodup ∧ (∀ k ∈ c.keys, k ≠ "" ∧ Text.trim k = k) ∧ (c.capacity : Int) = size ∧
        c.size ≤ c.capacity) ∧
      (c.keys.Sublist (recent accesses) ∧
        ∀ k e, c.entries.lookup k = some e → lastStatus? accesses k = some e.status) ∧
      (∀ a : Access, a.write? = none → ¬ a.Drops → c.access a = c) ∧
      (∀ (a : Access) k status, a.write? = some (k, status) →
        Overwrites c (c.access a) k status) ∧
      ∀ stretch : List Access, c.entries = [] → (∀ a ∈ stretch, ¬ a.Drops) →
        (c.run stretch).keys = (recent stretch).rtake c.capacity ∧
          ∀ k e, (c.run stretch).entries.lookup k = some e →
            lastStatus? stretch k = some e.status := by
  intro c
  obtain ⟨hempty, hsize⟩ := ofCapacity_eq hcache
  have hvalid : c.Valid := (valid_of_entries_nil hempty).run accesses
  have hcapacity : (c.capacity : Int) = size := by rw [capacity_run, hsize]
  refine ⟨⟨hvalid.nodup, hvalid.isKey, hcapacity, hvalid.bounded⟩,
    ⟨keys_sublist_recent hempty accesses, fun _ _ => status_run hempty accesses⟩, ?_, ?_, ?_⟩
  · intro a hwrite hdrops
    have ha := accessed c a
    generalize c.access a = d at ha ⊢
    cases ha with
    | kept => rfl
    | dropped hinvalidate => exact absurd (hinvalidate ▸ trivial) hdrops
    | written _ hwrite' => rw [hwrite] at hwrite'; cases hwrite'
  · intro a k status hwrite
    have ha := accessed c a
    generalize c.access a = d at ha ⊢
    cases ha with
    | kept hnone => rw [hwrite] at hnone; cases hnone
    | dropped hinvalidate =>
      rw [Access.write?_of_drops (hinvalidate ▸ trivial)] at hwrite
      cases hwrite
    | written hkey hsome =>
      rw [hwrite] at hsome
      cases hsome
      exact overwrites_put hvalid hkey _
  · intro stretch hnone hkept
    exact ⟨keys_run hnone hkept, fun _ _ => status_run hnone stretch⟩

/-- Writes of a key in two spellings, of a blank one, and of one key more than a cache for two holds. -/
def crowdedAccesses : List Access :=
  [.set "x " [{ name := "x" }], .markPending "y", .markError " x" "gone", .set "\t" [], .get "y",
    .set "z" []]

theorem holds_last_writes_crowded :
    let c := ({ capacity := 2 } : Cache).run [.set "a" [], .invalidate none]
    let d := ({ capacity := 2 } : Cache).run crowdedAccesses
    c.entries = [] ∧ (∀ a ∈ crowdedAccesses, ¬ a.Drops) ∧
      (c.run crowdedAccesses).keys = ["x", "z"] ∧
        Overwrites d (d.access (.markPending "y ")) "y" .pending := by
  intro c d
  have hcache : ofCapacity 2 = .ok { capacity := 2 } := rfl
  have hempty : c.entries = [] := rfl
  have hkept : ∀ a ∈ crowdedAccesses, ¬ a.Drops := by simp [crowdedAccesses, Access.Drops]
  obtain ⟨-, -, -, -, hstretch⟩ := holds_last_writes hcache [.set "a" [], .invalidate none]
  obtain ⟨-, -, -, hwrite, -⟩ := holds_last_writes hcache crowdedAccesses
  refine ⟨hempty, hkept, ?_, hwrite (.markPending "y ") "y" .pending (by decide +kernel)⟩
  exact (hstretch crowdedAccesses hempty hkept).1.trans (by decide +kernel)

end Formulary.Cache

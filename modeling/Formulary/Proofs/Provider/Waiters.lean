import Formulary.Proofs.Provider.Table

/-!
# Waiters from move to move

Where the waiters of a load come from, and how a wait ends. A waiter gets on a load by asking for its
key. The wait ends with an outcome known at once, with that of the load when it leaves, or because the
waiter gives up.
-/

namespace Formulary.Provider

variable {p : Provider} {m : Move} {w : Nat} {r : WaitResult}

/-- The waiter asks or gives up in the move. -/
def Move.Concerns (w : Nat) : Move → Prop
  | .fetch v _ | .cancel v => v = w
  | _ => False

/-- Who waits for a load has waited for it before, or has asked just now. -/
theorem mem_waiters_move {l : Load} (hl : l ∈ (p.move m).loads) (hw : w ∈ l.waiters) :
    (∃ l' ∈ p.loads, l'.tag = l.tag ∧ w ∈ l'.waiters) ∨
      ∃ query, m = .fetch w query ∧ (p.Sound → l.key = queryKey query) := by
  have hm := moved p m
  generalize p.move m = q at hm hl
  cases hm with
  | idle | told | invalidated => exact Or.inl ⟨l, hl, rfl, hw⟩
  | settled => exact Or.inl ⟨l, List.mem_of_mem_filter hl, rfl, hw⟩
  | called | received =>
    obtain ⟨l', hl', rfl⟩ := List.mem_map.mp hl
    refine Or.inl ⟨l', hl', ?_⟩
    split at hw <;> exact ⟨by split <;> rfl, hw⟩
  | cancelled =>
    obtain ⟨l', hl', rfl⟩ := List.mem_map.mp hl
    exact Or.inl ⟨l', hl', rfl, List.mem_of_mem_filter hw⟩
  | @scheduled v query =>
    rcases List.mem_append.mp hl with hl | hl
    · exact Or.inl ⟨l, hl, rfl, hw⟩
    · obtain rfl := List.mem_singleton.mp hl
      obtain rfl := List.mem_singleton.mp hw
      exact Or.inr ⟨query, rfl, fun _ => rfl⟩
  | @joined v query l₀ hkey hl₀ =>
    obtain ⟨l', hl', rfl⟩ := List.mem_map.mp hl
    by_cases hid : l'.id = l₀.id
    · rw [if_pos hid] at hw ⊢
      rcases List.mem_append.mp hw with hw | hw
      · exact Or.inl ⟨l', hl', rfl, hw⟩
      · obtain rfl := List.mem_singleton.mp hw
        refine Or.inr ⟨query, rfl, ?_⟩
        intro hsound
        obtain ⟨hmem, hlk⟩ := hsound.sharedLoad?_eq_some_iff.mp hl₀
        rw [hsound.eq_of_id hl' hmem hid]
        exact hlk
    · rw [if_neg hid] at hw ⊢
      exact Or.inl ⟨l', hl', rfl, hw⟩

/-- A load goes from stage to stage until it leaves, and keeps all waiters that do not give up. -/
theorem load_move (hs : p.Sound) {l : Load} (hl : l ∈ p.loads) (hm : m ≠ .settle l.id) :
    ∃ l' ∈ (p.move m).loads, l'.tag = l.tag ∧
      (l'.stage = l.stage ∨ (l.stage = .scheduled ∧ l'.stage = .calling) ∨
        (l.stage = .calling ∧ (∃ answer, m = .receive l.id answer) ∧ ∃ o, l'.stage = .finished o)) ∧
      ∀ w ∈ l.waiters, m ≠ .cancel w → w ∈ l'.waiters := by
  have hmoved := moved p m
  generalize p.move m = q at hmoved ⊢
  cases hmoved with
  | idle | told | invalidated => exact ⟨l, hl, rfl, Or.inl rfl, fun w hw _ => hw⟩
  | scheduled => exact ⟨l, List.mem_append_left _ hl, rfl, Or.inl rfl, fun w hw _ => hw⟩
  | @joined v query l₀ hkey hl₀ =>
    by_cases hid : l.id = l₀.id
    · rw [← hid]
      refine ⟨_, mem_modifyLoad hl _ _, rfl, Or.inl rfl, ?_⟩
      exact fun w hw _ => List.mem_append_left _ hw
    · exact ⟨l, mem_modifyLoad_of_ne hl hid _ _, rfl, Or.inl rfl, fun w hw _ => hw⟩
  | cancelled =>
    refine ⟨_, List.mem_map_of_mem hl, rfl, Or.inl rfl, ?_⟩
    intro w hw hne
    have hother : w ≠ _ := fun heq => hne (congrArg Move.cancel heq.symm)
    exact List.mem_filter.mpr ⟨hw, decide_eq_true hother⟩
  | @called id l₀ hl₀ hstage =>
    obtain ⟨hmem, rfl⟩ := mem_of_load? hl₀
    by_cases hid : l.id = l₀.id
    · obtain rfl := hs.eq_of_id hl hmem hid
      exact ⟨_, mem_modifyLoad hl _ _, rfl, Or.inr (Or.inl ⟨hstage, rfl⟩), fun w hw _ => hw⟩
    · exact ⟨l, mem_modifyLoad_of_ne hl hid _ _, rfl, Or.inl rfl, fun w hw _ => hw⟩
  | @received id answer l₀ hl₀ hstage =>
    obtain ⟨hmem, rfl⟩ := mem_of_load? hl₀
    by_cases hid : l.id = l₀.id
    · obtain rfl := hs.eq_of_id hl hmem hid
      exact ⟨_, mem_modifyLoad hl _ _, rfl, Or.inr (Or.inr ⟨hstage, ⟨answer, rfl⟩, _, rfl⟩),
        fun w hw _ => hw⟩
    · exact ⟨l, mem_modifyLoad_of_ne hl hid _ _, rfl, Or.inl rfl, fun w hw _ => hw⟩
  | @settled id l₀ outcome hl₀ =>
    have hid : l.id ≠ id := fun heq => hm (congrArg Move.settle heq.symm)
    exact ⟨l, List.mem_filter.mpr ⟨hl, decide_eq_true hid⟩, rfl, Or.inl rfl, fun w hw _ => hw⟩

/-- Whoever asks is told at once or waits for a load of the key. -/
theorem told_or_waits (hs : p.Sound) (w : Nat) (query : String) :
    (∃ o, (w, .answered o) ∈ (p.move (.fetch w query)).results) ∨
      ∃ l ∈ (p.move (.fetch w query)).loads, l.key = queryKey query ∧ w ∈ l.waiters := by
  have h := fetched p w query
  rw [move]
  generalize (p.fetch w query).value = q at h ⊢
  cases h with
  | told => exact Or.inl ⟨_, List.mem_cons_self⟩
  | scheduled => exact Or.inr ⟨_, List.mem_append_right _ List.mem_cons_self, rfl, List.mem_cons_self⟩
  | @joined l hkey hl =>
    obtain ⟨hmem, hlk⟩ := hs.sharedLoad?_eq_some_iff.mp hl
    exact Or.inr ⟨_, mem_modifyLoad hmem _ _, hlk, List.mem_append_right _ List.mem_cons_self⟩

/-- The ways in which a wait ends in a move. -/
inductive WaitEnds (p : Provider) (w : Nat) : Move → WaitResult → Prop where
  | known {query : String} {outcome : Outcome} (h : Known p (queryKey query) outcome) :
      WaitEnds p w (.fetch w query) (.answered outcome)
  | left {l : Load} {outcome : Outcome} (hl : l ∈ p.loads) (hs : l.stage = .finished outcome)
      (hw : w ∈ l.waiters) : WaitEnds p w (.settle l.id) (.answered outcome)
  | gaveUp : WaitEnds p w (.cancel w) .cancelled

theorem mem_results_move (hr : (w, r) ∈ (p.move m).results) :
    (w, r) ∈ p.results ∨ WaitEnds p w m r := by
  have hm := moved p m
  generalize p.move m = q at hm hr
  cases hm with
  | idle | scheduled | joined | invalidated => exact Or.inl hr
  | called | received => exact Or.inl (by simpa only [modifyLoad] using hr)
  | told h =>
    rcases List.mem_cons.mp hr with heq | hr
    · cases heq
      exact Or.inr (.known h)
    · exact Or.inl hr
  | cancelled =>
    rcases List.mem_cons.mp hr with heq | hr
    · cases heq
      exact Or.inr .gaveUp
    · exact Or.inl hr
  | settled hl hs =>
    rcases List.mem_append.mp hr with hr | hr
    · obtain ⟨v, hv, heq⟩ := List.mem_map.mp (List.mem_reverse.mp hr)
      cases heq
      obtain ⟨hmem, rfl⟩ := mem_of_load? hl
      exact Or.inr (.left hmem hs hv)
    · exact Or.inl hr

theorem mem_results_of_mem (m : Move) {e : Nat × WaitResult} (he : e ∈ p.results) :
    e ∈ (p.move m).results := by
  have hm := moved p m
  generalize p.move m = q at hm ⊢
  cases hm with
  | idle | scheduled | joined | invalidated => exact he
  | called | received => simpa only [modifyLoad] using he
  | told | cancelled => exact List.mem_cons_of_mem _ he
  | settled => exact List.mem_append_right _ he

/-! ## The last result of a waiter -/

theorem lookup_told (waiters : List Nat) (w : Nat) (r : WaitResult)
    (results : List (Nat × WaitResult)) :
    ((waiters.map fun v => (v, r)).reverse ++ results).lookup w =
      if w ∈ waiters then some r else results.lookup w := by
  induction waiters generalizing results with
  | nil => rfl
  | cons v rest ih =>
    rw [List.map_cons, List.reverse_cons, List.append_assoc, ih]
    by_cases hw : w ∈ rest
    · simp [hw]
    · by_cases hv : w = v
      · subst hv
        simp
      · simp [hw, hv, List.lookup_cons, beq_false_of_ne hv]

theorem mem_of_result? (h : p.result? w = some r) : (w, r) ∈ p.results := Cache.mem_of_lookup h

theorem result?_ne_none (h : (w, r) ∈ p.results) : p.result? w ≠ none := by
  intro hnone
  have hne := List.lookup_eq_none_iff.mp hnone _ h
  simp at hne

/-- The waiter waits for no load but this one. -/
def WaitsOnlyFor (p : Provider) (w id : Nat) : Prop := ∀ l ∈ p.loads, w ∈ l.waiters → l.id = id

/-- The waiter waits for no load. -/
def Absent (p : Provider) (w : Nat) : Prop := ∀ l ∈ p.loads, w ∉ l.waiters

theorem WaitsOnlyFor.move {id : Nat} (h : p.WaitsOnlyFor w id) (hm : ¬ m.Concerns w) :
    (p.move m).WaitsOnlyFor w id := by
  intro l hl hw
  rcases mem_waiters_move hl hw with ⟨l', hl', htag, hw'⟩ | ⟨query, rfl, -⟩
  · have hid : l'.id = l.id := congrArg Prod.snd htag
    exact hid ▸ h l' hl' hw'
  · exact absurd rfl hm

theorem Absent.move (h : p.Absent w) (hm : ¬ m.Concerns w) : (p.move m).Absent w := by
  intro l hl hw
  rcases mem_waiters_move hl hw with ⟨l', hl', -, hw'⟩ | ⟨query, rfl, -⟩
  · exact h l' hl' hw'
  · exact hm rfl

/-- Nobody else ends the wait of a waiter that waits for no load. -/
theorem Absent.result?_move (h : p.Absent w) (hm : ¬ m.Concerns w) :
    (p.move m).result? w = p.result? w := by
  have hmoved := moved p m
  generalize p.move m = q at hmoved ⊢
  cases hmoved with
  | idle | scheduled | joined | invalidated => rfl
  | called | received => simp only [result?, modifyLoad]
  | told | cancelled =>
    simp [result?, finish, List.lookup_cons, beq_false_of_ne (Ne.symm hm)]
  | @settled id l outcome hl =>
    have hnot : w ∉ l.waiters := h l (List.mem_of_find?_eq_some hl)
    rw [result?, lookup_told, if_neg hnot]
    rfl

theorem Absent.run (h : p.Absent w) {moves : List Move} (hmoves : ∀ m ∈ moves, ¬ m.Concerns w) :
    (p.run moves).result? w = p.result? w := by
  induction moves generalizing p with
  | nil => rfl
  | cons m rest ih =>
    have hm : ¬ m.Concerns w := hmoves m List.mem_cons_self
    have hrest : ∀ n ∈ rest, ¬ n.Concerns w := fun n hn => hmoves n (List.mem_cons_of_mem m hn)
    exact (ih (h.move hm) hrest).trans (h.result?_move hm)

end Formulary.Provider

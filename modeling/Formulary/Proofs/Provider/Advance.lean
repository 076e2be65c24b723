import Formulary.Proofs.Provider.Outcome
import Formulary.Suggestion.Supply

/-!
# An advance answers all that is not held back

Loads are taken from stage to stage one after the other. Whatever happens to the other loads meanwhile,
a load that its turn finds at a stage is beyond it afterwards, so that at the end of an advance all are
told who waited for a query that was not held back, if no call lapses.
-/

namespace Formulary

/-- The stages in their order. -/
def LoadStage.rank : LoadStage → Nat
  | .scheduled => 0
  | .calling => 1
  | .finished _ => 2

/-- No call lapses: every query has an answer. -/
def Supply.Sure (s : Supply) : Prop := ∀ query, s.lapse? query = none

theorem Supply.Sure.ending {s : Supply} (h : s.Sure) (query : String) :
    s.ending query = .ok (s.answer query) := by
  rw [Supply.ending, h query]
  rfl

theorem Supply.Sure.called {s : Supply} (h : s.Sure) (query : String) :
    s.called query = { s with calls := s.calls ++ [query] } := by
  simp [Supply.called, h query]

namespace Provider

variable {p : Provider} {l : Load} {tag : String × Nat} {w n : Nat} {m : Move}

def Told (w : Nat) (p : Provider) : Prop := ∃ o, (w, .answered o) ∈ p.results

/-- The waiter has been told, or waits for a load that has come this far. -/
structure Reaches (w : Nat) (tag : String × Nat) (n : Nat) (p : Provider) : Prop where
  sound : p.Sound
  wait : p.Told w ∨ ∃ l ∈ p.loads, l.tag = tag ∧ w ∈ l.waiters ∧ n ≤ l.stage.rank

theorem Told.move (h : p.Told w) (m : Move) : (p.move m).Told w := by
  obtain ⟨o, ho⟩ := h
  exact ⟨o, mem_results_of_mem m ho⟩

theorem settle_of_not_finished (hl : p.load? l.id = some l) (h : ∀ o, l.stage ≠ .finished o) :
    p.settle l.id = p := by
  obtain ⟨id, key, stage, waiters⟩ := l
  cases stage with
  | scheduled | calling => simp [settle, hl]
  | finished o => exact absurd rfl (h o)

theorem told_settle (hs : p.Sound) (hl : l ∈ p.loads) {o : Outcome} (hstage : l.stage = .finished o)
    (hw : w ∈ l.waiters) : (p.move (.settle l.id)).Told w := by
  have hsettle : p.move (.settle l.id) = _ := settle_of_finished (hs.load?_eq_some hl) hstage
  rw [hsettle]
  refine ⟨o, List.mem_append_left _ (List.mem_reverse.mpr ?_)⟩
  exact List.mem_map_of_mem (f := fun v => (v, WaitResult.answered o)) hw

theorem exists_load_move (hs : p.Sound) (hl : l ∈ p.loads) (hw : w ∈ l.waiters)
    (hsettle : m ≠ .settle l.id) (hcancel : m ≠ .cancel w) :
    ∃ l' ∈ (p.move m).loads, l'.tag = l.tag ∧ w ∈ l'.waiters ∧ l.stage.rank ≤ l'.stage.rank := by
  obtain ⟨l', hl', htag, hstage, hwaiters⟩ := load_move hs hl hsettle
  refine ⟨l', hl', htag, hwaiters w hw hcancel, ?_⟩
  rcases hstage with heq | ⟨hbefore, hafter⟩ | ⟨hbefore, -, o, hafter⟩
  · rw [heq]
  · rw [hbefore, hafter]
    exact Nat.zero_le _
  · rw [hbefore, hafter]
    exact Nat.le_succ 1

theorem Reaches.move (h : p.Reaches w tag n) (hm : m ≠ .cancel w) : (p.move m).Reaches w tag n where
  sound := h.sound.move m
  wait := by
    rcases h.wait with htold | ⟨l, hl, htag, hw, hn⟩
    · exact Or.inl (htold.move m)
    by_cases hsettle : m = .settle l.id
    · subst hsettle
      by_cases hfinished : ∃ o, l.stage = .finished o
      · obtain ⟨o, ho⟩ := hfinished
        exact Or.inl (told_settle h.sound hl ho hw)
      · have hnot : ∀ o, l.stage ≠ .finished o := fun o ho => hfinished ⟨o, ho⟩
        have hidle : p.move (.settle l.id) = p :=
          settle_of_not_finished (h.sound.load?_eq_some hl) hnot
        rw [hidle]
        exact Or.inr ⟨l, hl, htag, hw, hn⟩
    · obtain ⟨l', hl', htag', hw', hle⟩ := exists_load_move h.sound hl hw hsettle hm
      exact Or.inr ⟨l', hl', htag'.trans htag, hw', hn.trans hle⟩

/-! ## The turn of a load -/

theorem Reaches.call (h : p.Reaches w tag 0) : (p.move (.call tag.2)).Reaches w tag 1 where
  sound := h.sound.move _
  wait := by
    rcases h.wait with htold | ⟨l, hl, rfl, hw, -⟩
    · exact Or.inl (htold.move _)
    cases hstage : l.stage with
    | scheduled =>
      have hcall : p.move (.call l.id) = _ :=
        call_of_scheduled (h.sound.load?_eq_some hl) hstage
      change Told w (p.move (.call l.id)) ∨ ∃ l' ∈ (p.move (.call l.id)).loads, _
      rw [hcall]
      exact Or.inr ⟨_, mem_modifyLoad hl _ _, rfl, hw, Nat.le_refl 1⟩
    | calling | finished =>
      have hone : 1 ≤ l.stage.rank := by simp [hstage, LoadStage.rank]
      obtain ⟨l', hl', htag, hw', hle⟩ :=
        exists_load_move (m := .call l.id) h.sound hl hw nofun nofun
      exact Or.inr ⟨l', hl', htag, hw', hone.trans hle⟩

theorem Reaches.receive (h : p.Reaches w tag 1) (answer : Answer) :
    (p.move (.receive tag.2 answer)).Reaches w tag 2 where
  sound := h.sound.move _
  wait := by
    rcases h.wait with htold | ⟨l, hl, rfl, hw, hn⟩
    · exact Or.inl (htold.move _)
    cases hstage : l.stage with
    | scheduled =>
      rw [hstage] at hn
      exact absurd hn (by decide)
    | calling =>
      have hload := (received_load h.sound hl hstage (answer.ends_outcome l.key)).1
      exact Or.inr ⟨_, hload, rfl, hw, Nat.le_refl 2⟩
    | finished o =>
      obtain ⟨l', hl', htag, hw', hle⟩ :=
        exists_load_move (m := .receive l.id answer) h.sound hl hw nofun nofun
      rw [hstage] at hle
      exact Or.inr ⟨l', hl', htag, hw', hle⟩

theorem Reaches.settle (h : p.Reaches w tag 2) : (p.move (.settle tag.2)).Told w := by
  rcases h.wait with htold | ⟨l, hl, rfl, hw, hn⟩
  · exact htold.move _
  cases hstage : l.stage with
  | scheduled | calling =>
    rw [hstage] at hn
    exact absurd hn (by decide)
  | finished o => exact told_settle h.sound hl hstage hw

/-! ## All turns -/

/-- What holds before the turn of one element is found there, and what holds after it stays. -/
theorem foldl_reaches {α β : Type} {I J : β → Prop} {f : β → α → β} {a : α}
    (before : ∀ b x, I b → I (f b x)) (turn : ∀ b, I b → J (f b a))
    (after : ∀ b x, J b → J (f b x)) {xs : List α} (ha : a ∈ xs) {b : β} (hb : I b) :
    J (xs.foldl f b) := by
  induction xs generalizing b with
  | nil => cases ha
  | cons x rest ih =>
    rcases List.mem_cons.mp ha with rfl | ha
    · exact List.foldlRecOn rest f (turn b hb) fun b hb x _ => after b x hb
    · exact ih ha (before b x hb)

/-! ## The turn of the source -/

variable {s : Supply}

theorem exchange_calling (hs : s.Sure) (hstage : l.stage = .calling) (hkey : l.key ∉ s.withheld) :
    (exchange (s, p) l).value =
      ({ s with calls := s.calls ++ [l.key] }, p.move (.receive l.id (s.answer l.key))) := by
  simp [exchange, hstage, hkey, hs.ending, hs.called, conclude, move]

/-- The source has nothing to do with a load in its turn, or gives it its answer. -/
theorem exchange_cases (hs : s.Sure) (p : Provider) (l : Load) :
    (exchange (s, p) l).value = (s, p) ∨
      (exchange (s, p) l).value =
        ({ s with calls := s.calls ++ [l.key] }, p.move (.receive l.id (s.answer l.key))) := by
  cases hstage : l.stage with
  | scheduled | finished => exact Or.inl (by simp [exchange, hstage])
  | calling =>
    by_cases hkey : l.key ∈ s.withheld
    · exact Or.inl (by simp [exchange, hstage, hkey])
    · exact Or.inr (exchange_calling hs hstage hkey)

theorem exchange_kept (hs : s.Sure) (p : Provider) (l : Load) :
    (exchange (s, p) l).value.1.Sure ∧ (exchange (s, p) l).value.1.withheld = s.withheld := by
  rcases exchange_cases hs p l with heq | heq <;> rw [heq] <;> exact ⟨hs, rfl⟩

theorem Reaches.exchange (h : p.Reaches w tag n) (hs : s.Sure) (l : Load) :
    (exchange (s, p) l).value.2.Reaches w tag n := by
  rcases exchange_cases hs p l with heq | heq
  · rwa [heq]
  · rw [heq]
    exact h.move (m := .receive l.id (s.answer l.key)) nofun

/-! ## An advance -/

theorem reaches_called (h : p.Reaches w tag 0) (hid : tag.2 ∈ p.loads.map Load.id) :
    ((p.loads.map Load.id).foldl (fun q id => (q.call id).value) p).Reaches w tag 1 := by
  refine foldl_reaches (I := Reaches w tag 0) (J := Reaches w tag 1) ?_ ?_ ?_ hid h
  · exact fun q id hq => hq.move (m := .call id) nofun
  · exact fun q hq => hq.call
  · exact fun q id hq => hq.move (m := .call id) nofun

theorem reaches_exchanged (hs : s.Sure) (h : p.Reaches w tag 1) (htag : tag.1 ∉ s.withheld) :
    (p.loads.foldl (fun state l => (exchange state l).value) (s, p)).2.Reaches w tag 2 := by
  have hkeep (n : Nat) (state : Supply × Provider) (x : Load)
      (h : state.1.Sure ∧ state.2.Reaches w tag n) :
      (Provider.exchange state x).value.1.Sure ∧ (Provider.exchange state x).value.2.Reaches w tag n :=
    ⟨(exchange_kept h.1 state.2 x).1, h.2.exchange h.1 x⟩
  have hkept : p.Reaches w tag 2 →
      (p.loads.foldl (fun state l => (exchange state l).value) (s, p)).2.Reaches w tag 2 := by
    intro h
    exact (List.foldlRecOn (motive := fun state : Supply × Provider =>
      state.1.Sure ∧ state.2.Reaches w tag 2) p.loads _ ⟨hs, h⟩ fun state h x _ => hkeep 2 state x h).2
  rcases h.wait with htold | ⟨l, hl, rfl, hw, hn⟩
  · exact hkept ⟨h.sound, Or.inl htold⟩
  -- The turns go by the stages from before the first of them, so that only a load that was calling
  -- then has one.
  cases hstage : l.stage with
  | scheduled =>
    rw [hstage] at hn
    exact absurd hn (by decide)
  | finished o =>
    have hdone : 2 ≤ l.stage.rank := by rw [hstage]; exact Nat.le_refl 2
    exact hkept ⟨h.sound, Or.inr ⟨l, hl, rfl, hw, hdone⟩⟩
  | calling =>
    refine (foldl_reaches
      (I := fun state : Supply × Provider => (state.1.Sure ∧ state.2.Reaches w l.tag 1) ∧
        state.1.withheld = s.withheld)
      (J := fun state => state.1.Sure ∧ state.2.Reaches w l.tag 2) ?_ ?_ (hkeep 2) hl
      ⟨⟨hs, h⟩, rfl⟩).2
    · rintro ⟨s', q⟩ x ⟨h', hwithheld⟩
      exact ⟨hkeep 1 _ x h', ((exchange_kept h'.1 q x).2).trans hwithheld⟩
    · rintro ⟨s', q⟩ ⟨⟨hs', hq⟩, hwithheld⟩
      have hkey : l.key ∉ s'.withheld := hwithheld ▸ htag
      rw [exchange_calling hs' hstage hkey]
      exact ⟨hs', hq.receive _⟩

theorem told_settled (h : p.Reaches w tag 2) : ((p.loads.map Load.id).foldl settle p).Told w := by
  rcases h.wait with htold | ⟨l, hl, htag, -⟩
  · exact List.foldlRecOn (motive := Told w) _ settle htold fun q hq id _ => hq.move (.settle id)
  · have hid : tag.2 ∈ p.loads.map Load.id := List.mem_map.mpr ⟨l, hl, congrArg Prod.snd htag⟩
    refine foldl_reaches (I := Reaches w tag 2) (J := Told w) ?_ ?_ ?_ hid h
    · exact fun q id hq => hq.move (m := .settle id) nofun
    · exact fun q hq => hq.settle
    · exact fun q id hq => hq.move (.settle id)

/-- An advance tells all who wait for a query that is not held back. -/
theorem told_advance (hs : p.Sound) (hl : l ∈ p.loads) (hw : w ∈ l.waiters) (hsure : s.Sure)
    (hkey : l.key ∉ s.withheld) : (p.advance s).value.2.Told w := by
  simp only [advance, Noted.value_bind, Noted.value_fold, Noted.value_pure]
  have hstart : p.Reaches w l.tag 0 := ⟨hs, Or.inr ⟨l, hl, rfl, hw, Nat.zero_le _⟩⟩
  have hcalled := reaches_called hstart (List.mem_map_of_mem hl)
  have hexchanged := reaches_exchanged hsure hcalled hkey
  exact told_settled hexchanged

end Provider

end Formulary

import Formulary.Proofs.Provider.Waiters

/-!
# A waiter that gives up

`p.without w` is the provider as everybody else sees it: the waiter `w` waits for no load and has no
result. No move of others depends on what is left out, so that a run in which the waiter gives up and
one in which it stays look the same to them.
-/

namespace Formulary

/-- The load without one of its waiters. -/
def Load.without (l : Load) (w : Nat) : Load := { l with waiters := l.waiters.filter (· ≠ w) }

@[simp] theorem Load.id_without (l : Load) (w : Nat) : (l.without w).id = l.id := rfl

@[simp] theorem Load.stage_without (l : Load) (w : Nat) : (l.without w).stage = l.stage := rfl

namespace Provider

variable {p q : Provider} {w v : Nat}

/-- The provider with all that has to do with one waiter left out. -/
def without (p : Provider) (w : Nat) : Provider :=
  { p with
    loads := p.loads.map fun l => l.without w
    results := p.results.filter fun r => r.1 ≠ w }

@[simp] theorem cache_without (p : Provider) (w : Nat) : (p.without w).cache = p.cache := rfl

/-! ## What is left out is not looked at -/

theorem load?_without (p : Provider) (w id : Nat) :
    (p.without w).load? id = (p.load? id).map fun l => l.without w := by
  rw [load?, without, List.find?_map]
  rfl

theorem sharedLoad?_without (p : Provider) (w : Nat) (key : String) :
    (p.without w).sharedLoad? key = (p.sharedLoad? key).map fun l => l.without w := by
  simp only [sharedLoad?, without]
  cases p.shared.lookup key with
  | none => rfl
  | some id => exact load?_without p w id

theorem cached?_without (p : Provider) (w : Nat) (key : String) :
    (p.without w).cached? key = p.cached? key := rfl

theorem result?_without (h : v ≠ w) (p : Provider) :
    (p.without w).result? v = p.result? v := by
  rw [result?, result?, without]
  exact Cache.lookup_filter_of_ne h p.results

theorem finish_without (h : v ≠ w) (p : Provider) (r : WaitResult) :
    (p.finish v r).without w = (p.without w).finish v r := by
  simp [finish, without, h]

theorem modifyLoad_without (p : Provider) (w id : Nat) {change : Load → Load}
    (hchange : ∀ l, (change l).without w = change (l.without w)) :
    (p.modifyLoad id change).without w = (p.without w).modifyLoad id change := by
  simp only [modifyLoad, without, List.map_map]
  congr 1
  apply List.map_congr_left
  intro l _
  by_cases hid : l.id = id <;> simp [hid, hchange]

theorem schedule_without (h : v ≠ w) (p : Provider) (key : String) :
    (p.schedule key v).without w = (p.without w).schedule key v := by
  simp [schedule, without, Load.without, h]

/-! ## Moves of others -/

theorem fetch_without (h : v ≠ w) (p : Provider) (query : String) :
    (p.fetch v query).value.without w = ((p.without w).fetch v query).value := by
  unfold fetch
  by_cases hkey : queryKey query = ""
  · simpa [hkey] using finish_without h p _
  simp only [String.isEmpty_iff, hkey, if_false, cached?_without, sharedLoad?_without]
  cases p.cached? (queryKey query) with
  | some candidates => exact finish_without h p _
  | none =>
    cases hl : p.sharedLoad? (queryKey query) with
    | none => exact schedule_without h p _
    | some l =>
      have hjoin : (p.modifyLoad l.id fun l => { l with waiters := l.waiters ++ [v] }).without w =
          (p.without w).modifyLoad l.id fun l => { l with waiters := l.waiters ++ [v] } :=
        modifyLoad_without p w l.id fun l => by simp [Load.without, h]
      cases hs : l.stage with
      | finished outcome => simpa [hs] using finish_without h p _
      | scheduled => simpa [hs] using hjoin
      | calling => simpa [hs] using hjoin

theorem cancel_without (h : v ≠ w) (p : Provider) :
    (p.cancel v).without w = (p.without w).cancel v := by
  have hany : ((p.without w).loads.any fun l => v ∈ l.waiters) =
      p.loads.any fun l => v ∈ l.waiters := by
    simp [without, Load.without, List.any_map, Function.comp_def, h]
  unfold cancel
  rw [hany]
  split
  · rw [finish_without h]
    congr 1
    simp only [without, List.map_map]
    congr 1
    apply List.map_congr_left
    intro l _
    simp [Load.without, List.filter_filter, Bool.and_comm]
  · rfl

theorem call_without (p : Provider) (w id : Nat) :
    (p.call id).value.without w = ((p.without w).call id).value := by
  unfold call
  rw [load?_without]
  cases p.load? id with
  | none => rfl
  | some l =>
    obtain ⟨n, key, stage, waiters⟩ := l
    cases stage with
    | scheduled =>
      simp only [Option.map_some, Load.without, Noted.value_bind, Noted.value_pure, cache_without]
      generalize (p.cache.markPending key).value = cache
      exact modifyLoad_without { p with cache } w id fun _ => rfl
    | calling | finished => rfl

theorem receive_without (p : Provider) (w id : Nat) (answer : Answer) :
    (p.receive id answer).value.without w = ((p.without w).receive id answer).value := by
  unfold receive
  rw [load?_without]
  cases p.load? id with
  | none => rfl
  | some l =>
    obtain ⟨n, key, stage, waiters⟩ := l
    cases stage with
    | calling =>
      simp only [Option.map_some, Load.without, Noted.value_bind, Noted.value_pure, cache_without]
      generalize (record p.cache key (answer.outcome key).value).value = cache
      exact modifyLoad_without { p with cache } w id fun _ => rfl
    | scheduled | finished => rfl

theorem leave_without (p : Provider) (w : Nat) (l : Load) (r : WaitResult) :
    (p.leave l r).without w = (p.without w).leave (l.without w) r := by
  have hloads : (p.loads.filter fun m => m.id ≠ l.id).map (fun m => m.without w) =
      (p.loads.map fun m => m.without w).filter fun m => m.id ≠ l.id := by
    rw [List.filter_map]
    rfl
  have hresults : ((l.waiters.map fun v => (v, r)).reverse ++ p.results).filter
        (fun s => s.1 ≠ w) =
      ((l.waiters.filter (· ≠ w)).map fun v => (v, r)).reverse ++
        p.results.filter fun s => s.1 ≠ w := by
    rw [List.filter_append, List.filter_reverse, List.filter_map]
    rfl
  simp only [leave_eq, without, hloads, hresults]
  rfl

theorem settle_without (p : Provider) (w id : Nat) :
    (p.settle id).without w = (p.without w).settle id := by
  unfold settle
  rw [load?_without]
  cases p.load? id with
  | none => rfl
  | some l =>
    obtain ⟨n, key, stage, waiters⟩ := l
    cases stage with
    | scheduled | calling => rfl
    | finished outcome => exact leave_without p w _ _

/-- What is left out of a provider makes no difference to the moves of others. -/
theorem move_without (p : Provider) {m : Move} (hm : ¬ m.Concerns w) :
    (p.move m).without w = (p.without w).move m := by
  cases m with
  | fetch v query => exact fetch_without hm p query
  | cancel v => exact cancel_without hm p
  | invalidate query => rfl
  | call id => exact call_without p w id
  | receive id answer => exact receive_without p w id answer
  | settle id => exact settle_without p w id

theorem run_without (p : Provider) {moves : List Move} (hmoves : ∀ m ∈ moves, ¬ m.Concerns w) :
    (p.run moves).without w = (p.without w).run moves := by
  induction moves generalizing p with
  | nil => rfl
  | cons m rest ih =>
    have hrest : ∀ n ∈ rest, ¬ n.Concerns w := fun n hn => hmoves n (List.mem_cons_of_mem m hn)
    calc
      ((p.move m).run rest).without w = ((p.move m).without w).run rest := ih _ hrest
      _ = ((p.without w).move m).run rest := by rw [move_without p (hmoves m List.mem_cons_self)]

theorem asked?_without (p : Provider) (w : Nat) (m : Move) :
    (Step.mk (p.without w) m).asked? = (Step.mk p m).asked? := by
  cases m with
  | fetch | cancel | invalidate | receive | settle => rfl
  | call id =>
    simp only [Step.asked?, load?_without]
    cases p.load? id with
    | none => rfl
    | some l =>
      obtain ⟨n, key, stage, waiters⟩ := l
      cases stage <;> rfl

theorem asked?_steps_without (p : Provider) {moves : List Move}
    (hmoves : ∀ m ∈ moves, ¬ m.Concerns w) :
    ((p.without w).steps moves).map Step.asked? = (p.steps moves).map Step.asked? := by
  induction moves generalizing p with
  | nil => rfl
  | cons m rest ih =>
    have hrest : ∀ n ∈ rest, ¬ n.Concerns w := fun n hn => hmoves n (List.mem_cons_of_mem m hn)
    rw [steps, steps, List.map_cons, List.map_cons, asked?_without,
      ← move_without p (hmoves m List.mem_cons_self), ih _ hrest]

/-! ## The waiter itself -/

theorem cancel_without_self (p : Provider) (w : Nat) :
    (p.cancel w).without w = p.without w := by
  unfold cancel
  split
  · simp [finish, without, Load.without, Function.comp_def]
  · rfl

theorem absent_cancel (h : ∃ l ∈ p.loads, w ∈ l.waiters) :
    (p.cancel w).Absent w ∧ (p.cancel w).result? w = some .cancelled := by
  obtain ⟨l, hl, hw⟩ := h
  have hany : (p.loads.any fun l => w ∈ l.waiters) = true :=
    List.any_eq_true.mpr ⟨l, hl, decide_eq_true hw⟩
  rw [cancel, if_pos hany]
  refine ⟨?_, by simp [result?, finish]⟩
  intro l' hl'
  obtain ⟨m, -, rfl⟩ := List.mem_map.mp hl'
  simp

/-! ## Two runs -/

/-- Whether a waiter gives up or stays, the source is called for the same queries, and the keys in
flight, the cache and what others are told are the same. The waiter that gave up is told so. -/
theorem cancel_concerns_one (p : Provider) (hw : ∃ l ∈ p.loads, w ∈ l.waiters) {later : List Move}
    (hlater : ∀ m ∈ later, ¬ m.Concerns w) :
    let q := (p.move (.cancel w)).run later
    let r := p.run later
    ((p.move (.cancel w)).steps later).map Step.asked? = (p.steps later).map Step.asked? ∧
      q.inFlight = r.inFlight ∧ q.cache = r.cache ∧ q.without w = r.without w ∧
        (∀ v ≠ w, q.result? v = r.result? v) ∧ q.result? w = some .cancelled := by
  intro q r
  have hcancel : (p.move (.cancel w)).without w = p.without w := cancel_without_self p w
  have hsame : q.without w = r.without w := by
    rw [run_without _ hlater, run_without _ hlater, hcancel]
  obtain ⟨habsent, hresult⟩ := absent_cancel hw
  refine ⟨?_, ?_, ?_, hsame, ?_, (habsent.run hlater).trans hresult⟩
  · rw [← asked?_steps_without _ hlater, hcancel, asked?_steps_without _ hlater]
  · have hflight : (q.without w).inFlight = (r.without w).inFlight := congrArg inFlight hsame
    exact hflight
  · have hcache : (q.without w).cache = (r.without w).cache := congrArg Provider.cache hsame
    exact hcache
  · intro v hv
    rw [← result?_without hv, hsame, result?_without hv]

/-- A load fails that nobody waits for any more, and another waiter asks before it leaves. -/
def failingMoves : List Move :=
  [.receive 0 (.failure (some 500) none), .fetch 1 "x", .settle 0]

theorem cancel_concerns_one_failing :
    let p := run {} [.fetch 0 " x", .call 0]
    (∃ l ∈ p.loads, 0 ∈ l.waiters) ∧
      ((p.move (.cancel 0)).run failingMoves).cache = (p.run failingMoves).cache ∧
        ((p.move (.cancel 0)).run failingMoves).result? 1 = (p.run failingMoves).result? 1 ∧
          ((p.move (.cancel 0)).run failingMoves).result? 0 = some .cancelled := by
  intro p
  have hw : ∃ l ∈ p.loads, 0 ∈ l.waiters := ⟨_, List.mem_cons_self, List.mem_cons_self⟩
  have hlater : ∀ m ∈ failingMoves, ¬ m.Concerns 0 := by simp [failingMoves, Move.Concerns]
  obtain ⟨-, -, hcache, -, hothers, hself⟩ := cancel_concerns_one p hw hlater
  exact ⟨hw, hcache, hothers 1 (by decide), hself⟩

end Provider

end Formulary

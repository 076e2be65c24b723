import Formulary.Proofs.Controller.Refresh
import Formulary.Proofs.Provider.Lapse

/-!
# A refresh from its start to its end

Outside a loop a refresh runs from its start to its end, so that nothing is under way when the next
event comes, unless the end of a call is never reported. A provider without loads tells a waiter at
once, or begins a load that the next advance takes through all of its stages. `Ran` says once what
comes of that, however the call of the load ends.
-/

namespace Formulary

namespace Provider

variable {p : Provider} {k query : String} {w : Nat}

/-- No load is under way. -/
structure Quiet (p : Provider) : Prop where
  sound : p.Sound
  loads : p.loads = []

theorem Quiet.shared (h : p.Quiet) : p.shared = [] := by
  rw [h.sound.shared, h.loads, List.map_nil]

theorem Quiet.inFlight (h : p.Quiet) : p.inFlight = [] := by
  rw [Provider.inFlight, h.shared, List.map_nil]

theorem Quiet.sharedLoad? (h : p.Quiet) (k : String) : p.sharedLoad? k = none := by
  simp [Provider.sharedLoad?, h.shared]

theorem Quiet.finish (h : p.Quiet) (w : Nat) (r : WaitResult) : (p.finish w r).Quiet where
  sound := h.sound.of_tags h.sound.cache rfl rfl rfl
  loads := h.loads

/-! ## Asking a provider without loads -/

theorem peek_blank (h : p.Sound) : p.peek "" = [] := by
  have hblank : queryKey "" = "" := rfl
  cases he : p.cache.get? "" with
  | none => simp [peek, he]
  | some e =>
    have hne : queryKey "" ≠ "" := h.cache.key_ne_of_get? he
    exact absurd hblank hne

theorem peek_of_cached? {candidates : List Operand} (h : p.cached? k = some candidates) :
    (∃ e, p.cache.get? k = some e) ∧ p.peek k = candidates := by
  unfold cached? at h
  split at h
  · rename_i e he
    split at h
    · rename_i hstatus
      cases h
      exact ⟨⟨e, he⟩, by simp [peek, he, hstatus]⟩
    · cases h
  · cases h

/-- Whoever asks is told what a peek shows, or begins a load. -/
inductive Asked (p : Provider) (w : Nat) (k : String) : Provider → Prop where
  | told {o : Outcome} (held : k ≠ "" → ∃ e, p.cache.get? k = some e)
      (peek : p.peek k = o.candidates) : Asked p w k (p.finish w (.answered o))
  | scheduled (hk : Cache.IsKey k) (hcached : p.cached? k = none) : Asked p w k (p.schedule k w)

theorem Quiet.fetch_of_not_cached (h : p.Quiet) (hk : Cache.IsKey k) (hcached : p.cached? k = none)
    (w : Nat) : p.move (.fetch w k) = p.schedule k w := by
  simp [move, fetch, hk.1, hk.2, hcached, h.sharedLoad?]

theorem Quiet.asked (h : p.Quiet) (hkey : queryKey k = k) (w : Nat) :
    p.Asked w k (p.move (.fetch w k)) := by
  by_cases hblank : k = ""
  · subst hblank
    have htold : p.move (.fetch w "") = p.finish w (.answered (.ok [])) := by
      simp [move, fetch, hkey]
    rw [htold]
    exact .told (fun hne => absurd rfl hne) (peek_blank h.sound)
  have hk : Cache.IsKey k := ⟨hblank, hkey⟩
  cases hcached : p.cached? k with
  | none =>
    rw [h.fetch_of_not_cached hk hcached w]
    exact .scheduled hk hcached
  | some candidates =>
    obtain ⟨hheld, hpeek⟩ := peek_of_cached? hcached
    rw [fetch_of_cached (by rwa [hkey]) (by rwa [hkey])]
    exact .told (fun _ => hheld) hpeek

/-! ## The load that an advance finds -/

/-- The call of the only load, for a key with one waiter, is out. -/
def called (p : Provider) (key : String) (waiter : Nat) : Provider :=
  { p with
    cache := (p.cache.markPending key).value
    loads := [{ id := p.loadCount, key, stage := .calling, waiters := [waiter] }]
    shared := [(key, p.loadCount)]
    loadCount := p.loadCount + 1 }

/-- The call was answered, and the waiter has been told the outcome. -/
def loaded (p : Provider) (key : String) (waiter : Nat) (o : Outcome) : Provider :=
  { p with
    cache := (record (p.cache.markPending key).value key o).value
    loadCount := p.loadCount + 1
    results := (waiter, .answered o) :: p.results }

/-- The call broke off, and so did the wait. -/
def abandoned (p : Provider) (key : String) (waiter : Nat) : Provider :=
  { p with
    cache := (p.cache.markPending key).value
    loadCount := p.loadCount + 1
    results := (waiter, .cancelled) :: p.results }

/-- What the end of the call comes to. -/
def ended (p : Provider) (key : String) (waiter : Nat) : Ending → Provider
  | .ok answer => p.loaded key waiter (answer.outcome key).value
  | .error .brokenOff => p.abandoned key waiter
  | .error .unreported => p.called key waiter

theorem result?_finish (p : Provider) (w : Nat) (r : WaitResult) :
    (p.finish w r).result? w = some r := by
  simp [result?, Provider.finish]

theorem result?_loaded (p : Provider) (k : String) (w : Nat) (o : Outcome) :
    (p.loaded k w o).result? w = some (.answered o) := by
  simp [result?, loaded]

theorem result?_abandoned (p : Provider) (k : String) (w : Nat) :
    (p.abandoned k w).result? w = some .cancelled := by
  simp [result?, abandoned]

theorem result?_called (p : Provider) (k : String) (w v : Nat) :
    (p.called k w).result? v = p.result? v := by
  simp only [result?, called]

theorem result?_schedule (p : Provider) (k : String) (w v : Nat) :
    (p.schedule k w).result? v = p.result? v := by
  simp only [result?, schedule]

/-- The only load takes its turn, and then all are settled that are still there. -/
theorem foldl_settle_conclude (h : p.Quiet) (k : String) (w : Nat) (e : Ending) :
    (((p.called k w).conclude p.loadCount e).value.loads.map Load.id).foldl settle
      ((p.called k w).conclude p.loadCount e).value = p.ended k w e := by
  have hloads := h.loads
  have hshared := h.shared
  rcases e with (_ | _) | answer
  · simp [called, conclude, lapse, load?, leave, finish, ended, abandoned, hloads, hshared]
  · simp [called, conclude, settle, load?, ended]
  · simp [called, conclude, receive, load?, modifyLoad, settle, leave, finish, ended, loaded, hloads,
      hshared]

theorem Quiet.call_schedule (h : p.Quiet) (k : String) (w : Nat) :
    ((p.schedule k w).call p.loadCount).value = p.called k w := by
  simp [schedule, call, load?, modifyLoad, called, h.loads, h.shared]

theorem Quiet.advance_schedule (h : p.Quiet) {s : Supply} (hk : k ∉ s.withheld) (w : Nat) :
    ((p.schedule k w).advance s).value = (s.called k, p.ended k w (s.ending k)) := by
  have hids : (p.schedule k w).loads.map Load.id = [p.loadCount] := by simp [schedule, h.loads]
  have hturn : (p.called k w).loads.foldl (fun state l => (exchange state l).value)
      (s, p.called k w) = (s.called k, ((p.called k w).conclude p.loadCount (s.ending k)).value) := by
    simp [called, exchange, hk]
  simp only [advance, Noted.value_bind, Noted.value_fold, Noted.value_pure, hids, List.foldl_cons,
    List.foldl_nil, h.call_schedule, hturn, foldl_settle_conclude h]

theorem get?_loaded (hk : Cache.IsKey k) (p : Provider) (w : Nat) (o : Outcome) :
    (p.loaded k w o).cache.get? k = some (entryOf o) := by
  rw [loaded, record_eq_put, Cache.get?, hk.2, lookup_put_isKey hk]

theorem peek_loaded (hk : Cache.IsKey k) (p : Provider) (w : Nat) (o : Outcome) :
    (p.loaded k w o).peek k = o.candidates := by
  rw [peek, get?_loaded hk]
  cases o <;> rfl

/-- Unless nobody is told how the call ended, no load is under way then. -/
theorem Quiet.ended (h : p.Quiet) (hk : Cache.IsKey k) (w : Nat) {e : Ending}
    (he : e ≠ .error .unreported) : (p.ended k w e).Quiet where
  sound := by
    have hcalled := (h.sound.schedule hk (h.sharedLoad? k) w).move (.call p.loadCount)
    rw [move, h.call_schedule] at hcalled
    rw [← foldl_settle_conclude h]
    exact List.foldlRecOn _ settle (hcalled.conclude _ e) fun q hq id _ => hq.move (.settle id)
  loads := by
    rcases e with (_ | _) | answer
    · exact h.loads
    · exact absurd rfl he
    · exact h.loads

end Provider

namespace Controller

variable {c : Controller}

/-- No refresh and no load is under way. -/
structure Quiet (c : Controller) : Prop where
  provider : c.provider.Quiet
  refreshes : c.refreshes = []
  counted : ∀ r ∈ c.provider.results, r.1 < c.refreshCount

theorem Quiet.numbered (h : c.Quiet) : c.Numbered := by
  constructor <;> simp [h.refreshes]

theorem Quiet.not_waiting (h : c.Quiet) : c.provider.result? c.refreshCount = none := by
  cases hresult : c.provider.result? c.refreshCount with
  | none => rfl
  | some r => exact absurd (h.counted _ (Provider.mem_of_result? hresult)) (Nat.lt_irrefl _)

theorem handle_false (c : Controller) (event : InputEvent) :
    (c.handle false event).1 = { c with
      editor := (c.editor.react c.provider.peek event).editor
      focusCount := c.focusCount + (c.editor.react c.provider.peek event).focus.toNat } := rfl

/-- Outside a loop an event begins nothing. -/
theorem Quiet.handle (h : c.Quiet) (event : InputEvent) : (c.handle false event).1.Quiet where
  provider := h.provider
  refreshes := h.refreshes
  counted := h.counted

/-- The controller after a refresh that has put a result to the wait of its own number. -/
def refreshed (c : Controller) (provider : Provider) (editor : Editor) : Controller :=
  { c with editor, provider, refreshCount := c.refreshCount + 1 }

@[simp] theorem provider_refreshed (c : Controller) (p : Provider) (e : Editor) :
    (c.refreshed p e).provider = p := rfl

@[simp] theorem editor_refreshed (c : Controller) (p : Provider) (e : Editor) :
    (c.refreshed p e).editor = e := rfl

/-- A controller with one refresh, which has asked for the live key. -/
def asking (c : Controller) (provider : Provider) : Controller :=
  { c.refreshed provider c.editor with refreshes := [⟨c.refreshCount, some c.editor.key⟩] }

/-- What a refresh from its start to its end comes to. The source is not called if the candidates are
known, and else the call ends in some way. -/
inductive Ran (s : Supply) (c : Controller) : Supply × Controller → Prop where
  | told {o : Outcome}
      (held : c.editor.key ≠ "" → ∃ e, c.provider.cache.get? c.editor.key = some e)
      (peek : c.provider.peek c.editor.key = o.candidates) :
      Ran s c (s, c.refreshed (c.provider.finish c.refreshCount (.answered o))
        (c.editor.install o.candidates))
  | answered {answer : Answer} (hk : Cache.IsKey c.editor.key)
      (hcached : c.provider.cached? c.editor.key = none)
      (hending : s.ending c.editor.key = .ok answer) :
      Ran s c (s.called c.editor.key,
        c.refreshed
          (c.provider.loaded c.editor.key c.refreshCount (answer.outcome c.editor.key).value)
          (c.editor.install (answer.outcome c.editor.key).value.candidates))
  | abandoned (hk : Cache.IsKey c.editor.key)
      (hending : s.ending c.editor.key = .error .brokenOff) :
      Ran s c (s.called c.editor.key,
        c.refreshed (c.provider.abandoned c.editor.key c.refreshCount) c.editor)
  | unreported (hk : Cache.IsKey c.editor.key)
      (hending : s.ending c.editor.key = .error .unreported) :
      Ran s c (s.called c.editor.key,
        c.asking (c.provider.called c.editor.key c.refreshCount))

@[simp] theorem provider_asking (c : Controller) (p : Provider) : (c.asking p).provider = p := rfl

theorem Quiet.resume_answered (h : c.Quiet) {p : Provider} {o : Outcome}
    (hresult : p.result? c.refreshCount = some (.answered o)) :
    ((c.asking p).resume c.refreshCount).value =
      (c.refreshed p (c.editor.install o.candidates), some true) := by
  simp [resume, asking, refreshed, hresult, value_candidates?, apply, Editor.apply, h.refreshes]

theorem Quiet.resume_cancelled (h : c.Quiet) {p : Provider}
    (hresult : p.result? c.refreshCount = some .cancelled) :
    ((c.asking p).resume c.refreshCount).value = (c.refreshed p c.editor, none) := by
  simp [resume, asking, refreshed, hresult, candidates?, h.refreshes]

theorem resume_unanswered {p : Provider} (hresult : p.result? c.refreshCount = none) :
    ((c.asking p).resume c.refreshCount).value = (c.asking p, none) :=
  resume_of_waiting (by rwa [provider_asking])

theorem Ran.refreshCount {s : Supply} {r : Supply × Controller} (h : Ran s c r) :
    r.2.refreshCount = c.refreshCount + 1 := by
  cases h <;> rfl

theorem Quiet.start (h : c.Quiet) :
    (c.schedule.start c.refreshCount).value =
      ((c.asking (c.provider.move (.fetch c.refreshCount c.editor.key))).resume
        c.refreshCount).value := by
  have hask : c.schedule.ask c.refreshCount =
      c.asking (c.provider.move (.fetch c.refreshCount c.editor.key)) := by
    simp [Controller.ask, schedule, asking, refreshed, h.refreshes, Provider.move]
  rw [start_of_scheduled h.numbered.schedule (List.mem_append_right _ List.mem_cons_self), hask]

/-- How a refresh goes on that has begun a load. -/
theorem Quiet.ran_scheduled (h : c.Quiet) {s : Supply} (hk : Cache.IsKey c.editor.key)
    (hcached : c.provider.cached? c.editor.key = none) :
    Ran s c (s.called c.editor.key,
      ((c.asking (c.provider.ended c.editor.key c.refreshCount (s.ending c.editor.key))).resume
        c.refreshCount).value.1) := by
  rcases hending : s.ending c.editor.key with (_ | _) | answer
  · rw [Provider.ended, h.resume_cancelled (Provider.result?_abandoned _ _ _)]
    exact .abandoned hk hending
  · rw [Provider.ended, resume_unanswered (by rw [Provider.result?_called, h.not_waiting])]
    exact .unreported hk hending
  · rw [Provider.ended, h.resume_answered (Provider.result?_loaded _ _ _ _)]
    exact .answered hk hcached hending

/-- A refresh that has been told leaves nothing under way. -/
theorem Quiet.refreshed (h : c.Quiet) {q : Provider} (hq : q.Quiet) {r : WaitResult}
    (hresults : q.results = (c.refreshCount, r) :: c.provider.results) (e : Editor) :
    (c.refreshed q e).Quiet where
  provider := hq
  refreshes := h.refreshes
  counted := by
    rw [provider_refreshed, hresults]
    refine List.forall_mem_cons.mpr ⟨Nat.lt_succ_self _, ?_⟩
    exact fun r hr => Nat.lt_succ_of_lt (h.counted r hr)

/-- A refresh runs from its start to its end, unless the answer to its query is held back. -/
theorem Quiet.refresh (h : c.Quiet) {s : Supply} (hkey : c.editor.key ∉ s.withheld) :
    Ran s c ((c.refresh s).value.1, (c.refresh s).value.2.1) := by
  have hstart := h.start
  have hasked := h.provider.asked c.editor.queryKey_key c.refreshCount
  generalize c.provider.move (.fetch c.refreshCount c.editor.key) = q at hasked hstart
  cases hasked with
  | @told o held peek =>
    rw [h.resume_answered (Provider.result?_finish _ _ _)] at hstart
    simp only [Controller.refresh, Noted.value_bind, hstart, Noted.value_pure]
    exact .told held peek
  | scheduled hk hcached =>
    rw [resume_unanswered (by rw [Provider.result?_schedule, h.not_waiting])] at hstart
    have hadvance := h.provider.advance_schedule hkey c.refreshCount
    simp only [Controller.refresh, Noted.value_bind, hstart, Noted.value_pure, provider_asking,
      hadvance]
    exact h.ran_scheduled hk hcached

end Controller

end Formulary

import Formulary.Proofs.Controller.Refresh
import Formulary.Proofs.Controller.Schedule
import Formulary.Proofs.Provider.Lapse

/-!
# Failures do not get through

Whatever the source does with a query, its load ends in one of two ways: all who wait are told the
candidates and the key is a success, or all are told the failure and the key is an error. Nothing else
comes out of a fetch, and a refresh copes with both.
-/

namespace Formulary.Controller

open Provider (Accounted)

variable {c : Controller}

theorem mem_refreshes_schedule (c : Controller) : ⟨c.refreshCount, none⟩ ∈ c.schedule.refreshes :=
  List.mem_append_right _ List.mem_cons_self

/-- A refresh that has to wait is told in the advance that follows. -/
theorem told_refresh (hs : c.provider.Sound) {s : Supply} (hsure : s.Sure) {id : Nat}
    (hwait : (c.ask id).provider.result? id = none) (hkey : c.editor.key ∉ s.withheld) :
    ((c.ask id).provider.advance s).value.2.Told id := by
  rw [provider_ask] at hwait ⊢
  rcases Provider.told_or_waits hs id c.editor.key with ⟨o, ho⟩ | ⟨l, hl, hlk, hw⟩
  · exact absurd hwait (Provider.result?_ne_none ho)
  · rw [Editor.queryKey_key] at hlk
    exact Provider.told_advance (hs.move _) hl hw hsure (hlk ▸ hkey)

/-- Loads that move on give nobody up. -/
theorem not_cancelled_advance {p : Provider} {w : Nat} (h : (w, .cancelled) ∉ p.results)
    {s : Supply} (hs : s.Sure) : (w, .cancelled) ∉ (p.advance s).value.2.results := by
  obtain ⟨moves, hmoves, heq⟩ := Provider.leads_advance hs p
  rw [heq]
  refine List.foldlRecOn (motive := fun q : Provider => (w, .cancelled) ∉ q.results) moves _ h ?_
  intro q hq m hm hw
  rcases Provider.mem_results_move hw with hw | hends
  · exact hq hw
  · cases hends
    exact hmoves _ hm

theorem resume_of_told {id : Nat} (h : c.Numbered) (hr : ⟨id, some c.editor.key⟩ ∈ c.refreshes)
    (hw : (id, .cancelled) ∉ c.provider.results) (htold : c.provider.Told id) :
    (c.resume id).value.2 = some true := by
  obtain ⟨o, ho⟩ := htold
  rw [resume_verdict h hr hw]
  cases hresult : c.provider.result? id with
  | none => exact absurd hresult (Provider.result?_ne_none ho)
  | some r => simp

/-- If no call lapses, a refresh always comes to an end, and its candidates are taken, unless the answer
to its query is held back. -/
theorem refresh_verdict (h : c.Numbered) (hs : c.provider.Sound)
    (hw : (c.refreshCount, .cancelled) ∉ c.provider.results) {s : Supply} (hsure : s.Sure)
    (hkey : c.editor.key ∉ s.withheld) : (c.refresh s).value.2.2 = some true := by
  have hr := mem_refreshes_schedule c
  have hstart := start_of_scheduled h.schedule hr
  have hverdict := start_verdict h.schedule hr hw
  simp only [refresh, Noted.value_bind]
  cases hresult : (c.schedule.ask c.refreshCount).provider.result? c.refreshCount with
  | some r =>
    rw [hresult] at hverdict
    rw [hverdict]
    rfl
  | none =>
    have hwait : (c.schedule.start c.refreshCount).value.1 = c.schedule.ask c.refreshCount := by
      rw [hstart, resume_of_waiting hresult]
    have hask : (c.refreshCount, .cancelled) ∉
        (c.schedule.ask c.refreshCount).provider.results :=
      fun hmem => hw (mem_cancelled_ask (c := c.schedule) hmem)
    have hmem : ⟨c.refreshCount, some (c.schedule.ask c.refreshCount).editor.key⟩ ∈
        (c.schedule.ask c.refreshCount).refreshes := by
      rw [editor_ask]
      exact mem_refreshes_ask hr
    have htold := told_refresh (c := c.schedule) hs hsure hresult hkey
    have hnumbered := h.schedule.ask c.refreshCount
    -- All that matters of the refresh from here on is that it asked, and that nobody gave it up.
    rw [hresult] at hverdict
    rw [hverdict, hwait]
    generalize c.schedule.ask c.refreshCount = d at hask hmem htold hnumbered ⊢
    have hadvanced : Numbered { d with provider := (d.provider.advance s).value.2 } :=
      hnumbered.of_eq rfl rfl
    exact resume_of_told hadvanced hmem (not_cancelled_advance hask hsure) htold

/-! ## The two ways -/

/-- A load ends in one of two ways when it takes in its answer. Either the answer counts as a list, all
who wait are told its candidates, and the entry of the key is a success that holds them. Or it is a
failure, all who wait are told that, and the entry is an error with its text and no candidates. Replies
fail exactly if there is none, if the status is that of an error, or if the text nests too deep.

An exception is such an answer, a payload if it brings one along and else a failure, but for three kinds.
By one that cancels the call, and by one without a text, the waits of all are broken off, and the entry
is left behind, pending if it is not lost. The third leaves the load as it is, and so it stays, with all
who wait for it, until they give up.

Whatever else waiters are told in a run, they asked for or gave up; and every refresh that is not given
up ends with a verdict, if no call lapses. -/
theorem loads_end_in_two_ways {size : Int} {cache : Cache}
    (hcache : Cache.ofCapacity size = .ok cache) :
    (∀ past : List Provider.Move,
        let p := Provider.run { cache } past
        (∀ l ∈ p.loads, l.stage = .calling →
            (∀ answer : Answer,
              Xor (∃ candidates, answer.Lists candidates) (∃ e, answer.Fails l.key e) ∧
                (∀ candidates, answer.Lists candidates → p.Concludes l answer (.ok candidates)
                  { status := .success, data := candidates, error := none }) ∧
                ∀ e, answer.Fails l.key e → p.Concludes l answer (.error e)
                  { status := .error, data := [], error := some e.message }) ∧
              (∀ e : SourceException, p.Breaks l e (p.conclude l.id e.ending).value) ∧
              (∀ e, p.cache.get? l.key = some e → e.status = .pending) ∧
              ∀ later, (∀ answer, .receive l.id answer ∉ later) →
                ∃ l' ∈ (p.run later).loads, l'.tag = l.tag ∧ l'.stage = .calling ∧
                  ∀ w ∈ l.waiters, .cancel w ∉ later → w ∈ l'.waiters) ∧
          ∀ w r, (w, r) ∈ p.results → Accounted { cache } past w r) ∧
      (∀ reply : Reply,
        (∀ candidates, reply.answer.Lists candidates ↔
            ∃ status body, reply = .response status body ∧ ¬ (400 ≤ status ∧ status < 600) ∧
              Reply.Holds body candidates) ∧
          ∀ query e, reply.answer.Fails query e ↔ Reply.Refuses query reply e) ∧
      ∀ moves : List Move,
        let c := run { provider := { cache } } moves
        (∀ id, .provider (.cancel id) ∉ moves →
            (⟨id, none⟩ ∈ c.refreshes → (c.start id).value.2 =
              ((c.start id).value.1.provider.result? id).map fun _ => true) ∧
            ∀ key, ⟨id, some key⟩ ∈ c.refreshes →
              (c.resume id).value.2 =
                (c.provider.result? id).map fun _ => decide (key = c.editor.key)) ∧
          ∀ s : Supply, s.Sure → .provider (.cancel c.refreshCount) ∉ moves →
            c.editor.key ∉ s.withheld → (c.refresh s).value.2.2 = some true := by
  have hempty := (Cache.ofCapacity_eq hcache).1
  have hnew : Provider.Sound { cache } := Provider.sound_new (Cache.valid_of_entries_nil hempty)
  refine ⟨?_, fun reply => ⟨fun _ => Reply.lists_iff, fun _ _ => Reply.fails_iff⟩, ?_⟩
  · intro past p
    have hsound : p.Sound := hnew.run past
    refine ⟨?_, ?_⟩
    · intro l hl hstage
      have hlives : (p.keyState l.key).Lives :=
        Provider.lives_run hnew (Provider.lives_new hempty _) past
      refine ⟨fun answer => ⟨answer.lists_or_fails l.key, ?_, ?_⟩, ?_, ?_, ?_⟩
      · intro candidates hlists
        exact Provider.concludes (o := .ok candidates) hsound hl hstage hlists
      · intro e hfails
        exact Provider.concludes (o := .error e) hsound hl hstage hfails
      · exact Provider.breaks hsound hl hstage
      · exact fun e => Provider.pending_of_calling hsound hlives hl hstage
      · exact fun later => Provider.calling_run hsound hl hstage
    · intro w
      exact Provider.accounted_run hnew (Provider.fresh_new hempty) ⟨nofun, nofun⟩ past
  · intro moves c
    have hnumbered : c.Numbered := (numbered_new { cache }).run moves
    have hpatient : ∀ id, .provider (.cancel id) ∉ moves → (id, .cancelled) ∉ c.provider.results :=
      fun _ => not_cancelled_run (c := { provider := { cache } }) List.not_mem_nil
    refine ⟨?_, ?_⟩
    · intro id hid
      refine ⟨?_, fun key hr => resume_verdict hnumbered hr (hpatient id hid)⟩
      intro hr
      rw [start_verdict hnumbered hr (hpatient id hid), start_of_scheduled hnumbered hr,
        provider_resume]
    · intro s hsure hid
      exact refresh_verdict hnumbered (sound_run hnew moves) (hpatient _ hid) hsure

/-- A reply that nothing is there, a reply that is no JSON text, an exception that cancels the call, and
a refresh that gets no reply. -/
theorem loads_end_in_two_ways_refused :
    let p := Provider.run { cache := { capacity := 1 } } [.fetch 0 " x", .call 0]
    let failed := p.move (.receive 0 (Reply.response 404 "gone").answer)
    let unread := p.move (.receive 0 (Reply.response 200 "gone").answer)
    let future : SourceException :=
      { origin := "concurrent.futures._base", kind := "CancelledError", text := "" }
    let refusing : Supply := { answer := fun _ => (Reply.refused "timed out").answer }
    Cache.ofCapacity 1 = .ok { capacity := 1 } ∧
      failed.cache.get? "x" = some
        { status := .error, data := [], error := some "HTTP error! Status: 404: gone" } ∧
      (failed.run [.invalidate none, .settle 0]).result? 0 =
        some (.answered (.error ⟨"x", some 404, some "gone"⟩)) ∧
      unread.cache.get? "x" = some { status := .success, data := [], error := none } ∧
      (unread.run [.settle 0]).result? 0 = some (.answered (.ok [])) ∧
      (p.conclude 0 future.ending).value.result? 0 = some .cancelled ∧
      ((run { provider := { cache := { capacity := 1 } } } [.input true (.text "x")]).refresh
        refusing).value.2.2 = some true := by
  intro p failed unread future refusing
  have hcache : Cache.ofCapacity 1 = .ok { capacity := 1 } := rfl
  have hloads : p.loads = [{ id := 0, key := "x", stage := .calling, waiters := [0] }] := rfl
  have hmem : { id := 0, key := "x", stage := .calling, waiters := [0] } ∈ p.loads := by simp [hloads]
  have honly : p.WaitsOnlyFor 0 0 := by simp [Provider.WaitsOnlyFor, hloads]
  have hjson : Json.read "gone" = .error .malformed := rfl
  have hmessage : (⟨"x", some 404, some "gone"⟩ : FetchFailure).message =
      "HTTP error! Status: 404: gone" := by decide +kernel
  obtain ⟨hload, hreply, hrefresh⟩ := loads_end_in_two_ways hcache
  have hfails : (Reply.response 404 "gone").answer.Fails "x" ⟨"x", some 404, some "gone"⟩ :=
    ((hreply _).2 _ _).mpr (.status ⟨by decide, by decide⟩ "gone")
  have hlists : (Reply.response 200 "gone").answer.Lists [] :=
    ((hreply _).1 _).mpr ⟨200, "gone", rfl, by decide, .malformed hjson⟩
  obtain ⟨hends, hbreaks, -⟩ := (hload [.fetch 0 " x", .call 0]).1 _ hmem rfl
  have hfailed := (hends _).2.2 _ hfails
  have hunread := (hends _).2.1 _ hlists
  have herror := hfailed.stored
  rw [hmessage] at herror
  have hnot : ∀ m ∈ [Provider.Move.invalidate none, .settle 0], ¬ m.Concerns 0 := by
    simp [Provider.Move.Concerns]
  refine ⟨hcache, herror, ?_, hunread.stored, ?_, ?_, ?_⟩
  · exact hfailed.told 0 List.mem_cons_self honly _ hnot (by simp)
  · refine hunread.told 0 List.mem_cons_self honly _ ?_ (by simp)
    exact fun m hm => hnot m (List.mem_cons_of_mem _ hm)
  · exact ((hbreaks _).cancelled ⟨rfl, rfl⟩).told 0 List.mem_cons_self
  · exact (hrefresh [.input true (.text "x")]).2 refusing (fun _ => rfl) (by simp) List.not_mem_nil

/-- A body without a failing status that is no JSON text, but nests too deep to be found so, is a failure
and not an empty list. An exception that cancels the call is neither, and so is one without a text. -/
theorem body_too_deep_and_call_cancelled :
    let p := Provider.run { cache := { capacity := 1 } } [.fetch 0 "x", .call 0]
    let body := String.ofList (List.replicate 20000 '[')
    let deep := p.move (.receive 0 (Reply.response 200 body).answer)
    let future : SourceException :=
      { origin := "concurrent.futures._base", kind := "CancelledError", text := "" }
    let cancelled := (p.conclude 0 future.ending).value
    let absent : SourceException := { origin := "builtins", kind := "KeyError", text := none }
    let brokenOff := (p.conclude 0 absent.ending).value
    deep.cache.get? "x" = some { status := .error, data := [], error := some <|
        "Autocomplete request failed: RecursionError: " ++
          "maximum recursion depth exceeded while decoding a JSON array from a unicode string" } ∧
      (deep.run [.settle 0]).result? 0 ≠ some (.answered (.ok [])) ∧
      cancelled.cache.get? "x" = some { status := .pending, data := [], error := none } ∧
      cancelled.inFlight = [] ∧ cancelled.result? 0 = some .cancelled ∧
      brokenOff.cache.get? "x" = some { status := .pending, data := [], error := none } ∧
      brokenOff.inFlight = [] ∧ brokenOff.result? 0 = some .cancelled := by
  intro p body deep future cancelled absent brokenOff
  have hbody : body = String.ofList
      (List.replicate (Json.maxNesting + 1) '[' ++ List.replicate 19011 '[') := by
    rw [List.replicate_append_replicate]
    rfl
  have hanswer : (Reply.response 200 body).answer =
      .breakdown "RecursionError" (Json.ReadError.tooDeep "array").message := by
    rw [Reply.answer_success (by decide), Reply.read, hbody, Json.read_brackets]
  have hdeep : deep = p.move (.receive 0 (.breakdown "RecursionError"
      (Json.ReadError.tooDeep "array").message)) := by rw [← hanswer]
  clear_value deep
  subst hdeep
  refine ⟨by decide +kernel, ?_, by decide +kernel, by decide +kernel, rfl, by decide +kernel,
    by decide +kernel, rfl⟩
  intro htold
  cases Option.some.inj htold

end Formulary.Controller

import Formulary.Proofs.CommandLine.Typing
import Formulary.Proofs.Controller.Effect
import Formulary.Proofs.Controller.Schedule
import Formulary.Proofs.Provider.Begun

/-!
# Bursts of events

In a loop every new text schedules a refresh, and the refreshes of events that come in one go start one
after the other, all behind the last event. So they read one key: the first of them begins a load of it
if there is need for one, and the others find that load.
-/

namespace Formulary.Controller

open Provider (Given Lasts)

variable {c d : Controller} {k : String} {id r : Nat}

/-! ## Refreshes that are scheduled -/

theorem refreshes_burst (c : Controller) (burst : List InputEvent) :
    ∃ n, (c.run (burst.map (.input true))).refreshCount = c.refreshCount + n ∧
      (c.run (burst.map (.input true))).refreshes =
        c.refreshes ++ (List.range' c.refreshCount n).map (⟨·, none⟩) := by
  induction burst using List.reverseRecOn with
  | nil => exact ⟨0, rfl, by simp [run]⟩
  | append_singleton burst event ih =>
    obtain ⟨n, hcount, hrefreshes⟩ := ih
    rw [List.map_append, List.map_singleton, run_concat, move]
    rcases handle_refreshes (c.run (burst.map (.input true))) true event with
      ⟨hr, hc⟩ | ⟨-, hr, hc⟩
    · refine ⟨n + 1, ?_, ?_⟩
      · rw [hc, schedule, hcount, Nat.add_assoc]
      · rw [hr, schedule, hrefreshes, hcount, List.range'_concat]
        simp
    · exact ⟨n, hc.trans hcount, hr.trans hrefreshes⟩

theorem mem_refreshes_resume {x : Refresh} (hx : x ∈ c.refreshes) (hne : x.id ≠ id) :
    x ∈ (c.resume id).value.1.refreshes := by
  have hdismiss : x ∈ (c.dismiss id).refreshes :=
    List.mem_filter.mpr ⟨hx, decide_eq_true hne⟩
  have hr := resumed c id
  generalize (c.resume id).value.1 = d at hr ⊢
  cases hr with
  | waiting => exact hx
  | cancelled | stale | taken => exact hdismiss

theorem resume_of_scheduled (h : c.Numbered) (hr : ⟨r, none⟩ ∈ c.refreshes) :
    (c.resume r).value.1 = c := by
  have hf := h.find? hr
  simp [resume, hf]

/-- A refresh stays scheduled until it starts. -/
theorem scheduled_move (h : c.Numbered) (hr : ⟨r, none⟩ ∈ c.refreshes) {m : Move}
    (hm : m ≠ .start r) : ⟨r, none⟩ ∈ (c.move m).refreshes := by
  cases m with
  | input live event =>
    rw [move]
    rcases handle_refreshes c live event with ⟨hrefreshes, -⟩ | ⟨-, hrefreshes, -⟩
    · exact hrefreshes ▸ List.mem_append_left _ hr
    · exact hrefreshes ▸ hr
  | apply key candidates =>
    rw [move, apply_value]
    split <;> exact hr
  | schedule => exact List.mem_append_left _ hr
  | provider n => exact hr
  | resume id =>
    rw [move]
    by_cases hid : r = id
    · subst hid
      rwa [resume_of_scheduled h hr]
    · exact mem_refreshes_resume hr hid
  | start id =>
    have hid : r ≠ id := fun heq => hm (congrArg Move.start heq.symm)
    rw [move]
    rcases start_value c id with heq | ⟨-, heq⟩
    · rwa [heq]
    · rw [heq]
      refine mem_refreshes_resume ?_ hid
      rw [refreshes_ask]
      exact List.mem_map.mpr ⟨⟨r, none⟩, hr, if_neg hid⟩

theorem scheduled_run (h : c.Numbered) (hr : ⟨r, none⟩ ∈ c.refreshes) {moves : List Move}
    (hmoves : .start r ∉ moves) : ⟨r, none⟩ ∈ (c.run moves).refreshes := by
  induction moves generalizing c with
  | nil => exact hr
  | cons m rest ih =>
    have hm : m ≠ .start r := fun heq => hmoves (heq ▸ List.mem_cons_self)
    exact ih (h.move m) (scheduled_move h hr hm) fun hmem => hmoves (List.mem_cons_of_mem m hmem)

theorem key_of_bare {e e' : Editor} (h : e.bare = e'.bare) : e.key = e'.key := by
  obtain ⟨-, htext, -⟩ := Editor.bare_eq_iff.mp h
  rw [Editor.key, htext, Editor.key]

/-! ## Loads in a run -/

theorem given_move {P : Load → Prop} (h : c.provider.Given P id) (hP : Lasts P) (m : Move) :
    (c.move m).provider.Given P id :=
  provider_move_induction h (fun _ n hp => hp.move hP n) m

theorem given_run {P : Load → Prop} (h : c.provider.Given P id) (hP : Lasts P)
    (moves : List Move) : (c.run moves).provider.Given P id :=
  provider_run_induction h (fun _ n hp => hp.move hP n) moves

/-- The call of the source that a move makes: the number of its load, and the key. -/
def call? (c : Controller) : Move → Option (Nat × String)
  | .provider m => (Provider.Step.mk c.provider m).call?
  | _ => none

/-- The calls of the source in a run. -/
def calls (c : Controller) : List Move → List (Nat × String)
  | [] => []
  | m :: rest => (c.call? m).toList ++ calls (c.move m) rest

theorem call?_eq_some {m : Move} {call : Nat × String} (h : c.call? m = some call) :
    ∃ n, m = .provider n ∧ (Provider.Step.mk c.provider n).call? = some call := by
  cases m with
  | provider n => exact ⟨n, rfl, h⟩
  | input | apply | schedule | start | resume => cases h

/-- A load that is past its call makes no other. -/
theorem not_mem_calls (h : c.provider.Given (fun l => l.stage ≠ .scheduled) id)
    (moves : List Move) : ∀ call ∈ c.calls moves, call.1 ≠ id := by
  induction moves generalizing c with
  | nil => nofun
  | cons m rest ih =>
    intro call hcall
    rcases List.mem_append.mp hcall with hcall | hcall
    · rintro rfl
      obtain ⟨n, -, hn⟩ := call?_eq_some (Option.mem_toList.mp hcall)
      exact Given.call?_ne (s := ⟨c.provider, n⟩) h call.2 hn
    · exact ih (given_move h Provider.lasts_stage m) call hcall

/-- A load calls the source at most once, and with its key. -/
theorem calls_of_load (hs : c.provider.Sound) (h : c.provider.Given (fun l => l.key = k) id)
    (moves : List Move) :
    (c.calls moves).filter (·.1 = id) = [] ∨ (c.calls moves).filter (·.1 = id) = [(id, k)] := by
  induction moves generalizing c with
  | nil => exact Or.inl rfl
  | cons m rest ih =>
    have hsound := provider_move_induction hs (fun _ n hp => hp.move n) m
    have hrest := ih hsound (given_move h (Provider.lasts_key k) m)
    rw [calls, List.filter_append]
    cases hcall : c.call? m with
    | none => exact hrest
    | some call =>
      obtain ⟨n, rfl, hn⟩ := call?_eq_some hcall
      by_cases hid : call.1 = id
      · obtain ⟨id', k'⟩ := call
        obtain rfl : id' = id := hid
        obtain rfl : k' = k := Given.key_of_call? (s := ⟨c.provider, n⟩) h hn
        -- The load is past its stage now, so that the rest of the run has no call of it.
        have hspent := Provider.Step.given_of_call? (s := ⟨c.provider, n⟩) hs hn
        have hnone : (calls (c.move (.provider n)) rest).filter (·.1 = id') = [] := by
          refine List.filter_eq_nil_iff.mpr ?_
          simpa using not_mem_calls (c := c.move (.provider n)) hspent rest
        right
        simp [hnone]
      · simpa [hid] using hrest

/-! ## Refreshes that start one after the other -/

/-- A refresh that starts begins a load exactly if there is need for one, and then there is need for
none any more. -/
theorem provider_start (hs : c.provider.Sound) (id : Nat) :
    (c.move (.start id)).provider = c.provider ∨
      (c.provider.Needless c.editor.key ∧
        (c.move (.start id)).provider.Needless c.editor.key ∧
        (c.move (.start id)).provider.loadCount = c.provider.loadCount) ∨
      ¬ c.provider.Needless c.editor.key ∧
        ∃ w, (c.move (.start id)).provider = c.provider.schedule c.editor.key w := by
  rcases provider_move c (.start id) with heq | ⟨n, heq, hstart | ⟨w, rfl⟩⟩
  · exact Or.inl heq
  · cases hstart
  · right
    rw [heq]
    have hkey : queryKey c.editor.key = c.editor.key := Editor.queryKey_key c.editor
    by_cases hneedless : c.provider.Needless c.editor.key
    · obtain ⟨hcount, hafter⟩ := hneedless.fetch (w := w) hs hkey
      exact Or.inl ⟨hneedless, hafter, hcount⟩
    · exact Or.inr ⟨hneedless, w, hs.fetch_of_not_needless hkey hneedless w⟩

/-- The first of the refreshes that needs a load begins one, and the others find it. -/
theorem loadCount_starts (hs : c.provider.Sound) (ids : List Nat) :
    (c.run (ids.map .start)).provider.loadCount = c.provider.loadCount ∨
      ¬ c.provider.Needless c.editor.key ∧
        (c.run (ids.map .start)).provider.loadCount = c.provider.loadCount + 1 ∧
        (c.run (ids.map .start)).provider.Given (fun l => l.key = c.editor.key)
          c.provider.loadCount := by
  induction ids generalizing c with
  | nil => exact Or.inl rfl
  | cons id rest ih =>
    have hkey : (c.move (.start id)).editor.key = c.editor.key :=
      key_of_bare (bare_move_of_input?_eq_none c rfl)
    have hsound := provider_move_induction hs (fun _ n hp => hp.move n) (.start id)
    have hrest := ih hsound
    rw [hkey] at hrest
    change ((c.move (.start id)).run (rest.map .start)).provider.loadCount = _ ∨ _
    -- Once there is no need for a load, the refreshes that follow begin none.
    rcases provider_start hs id with heq | ⟨-, hafter, hcount⟩ | ⟨hneed, w, heq⟩
    · rwa [heq] at hrest
    · rcases hrest with hsame | ⟨hneed, -⟩
      · exact Or.inl (hsame.trans hcount)
      · exact absurd hafter hneed
    · have hgiven : (c.move (.start id)).provider.Given (fun l => l.key = c.editor.key)
          c.provider.loadCount := heq ▸ hs.given_schedule c.editor.key w
      have hafter : (c.move (.start id)).provider.Needless c.editor.key :=
        heq ▸ Provider.needless_schedule c.provider c.editor.key w
      have hcount : (c.move (.start id)).provider.loadCount = c.provider.loadCount + 1 :=
        congrArg Provider.loadCount heq
      rcases hrest with hsame | ⟨hneed', -⟩
      · exact Or.inr ⟨hneed, hsame.trans hcount,
          given_run hgiven (Provider.lasts_key c.editor.key) (rest.map .start)⟩
      · exact absurd hafter hneed'

/-- The keys for which the loads begun between two states call the source in a run from the second. -/
def keysCalled (c d : Controller) (moves : List Move) : List String :=
  ((d.calls moves).filter fun call =>
    c.provider.loadCount ≤ call.1 ∧ call.1 < d.provider.loadCount).map Prod.snd

theorem keysCalled_of_loadCount_eq (h : d.provider.loadCount = c.provider.loadCount)
    (moves : List Move) : keysCalled c d moves = [] := by
  rw [keysCalled, h, List.filter_eq_nil_iff.mpr, List.map_nil]
  intro call _ hbetween
  have hlt := of_decide_eq_true hbetween
  omega

theorem keysCalled_of_loadCount_succ (hs : d.provider.Sound)
    (hcount : d.provider.loadCount = c.provider.loadCount + 1)
    (hgiven : d.provider.Given (fun l => l.key = k) c.provider.loadCount) (moves : List Move) :
    keysCalled c d moves = [] ∨ keysCalled c d moves = [k] := by
  have hone : keysCalled c d moves =
      ((d.calls moves).filter (·.1 = c.provider.loadCount)).map Prod.snd := by
    rw [keysCalled, hcount]
    congr 1
    apply List.filter_congr
    intro call _
    rw [decide_eq_decide]
    omega
  rw [hone]
  rcases calls_of_load hs hgiven moves with hcalls | hcalls
  · exact Or.inl (by rw [hcalls, List.map_nil])
  · exact Or.inr (by rw [hcalls, List.map_singleton])

/-- Refreshes that start one after the other cause one call at most, and none if there is no need. -/
theorem keysCalled_starts (hs : c.provider.Sound) (ids : List Nat) (moves : List Move) :
    (keysCalled c (c.run (ids.map .start)) moves = [] ∨
        keysCalled c (c.run (ids.map .start)) moves = [c.editor.key]) ∧
      (c.provider.Needless c.editor.key → keysCalled c (c.run (ids.map .start)) moves = []) := by
  rcases loadCount_starts hs ids with hsame | ⟨hneed, hcount, hgiven⟩
  · have hnone := keysCalled_of_loadCount_eq hsame moves
    exact ⟨Or.inl hnone, fun _ => hnone⟩
  · refine ⟨?_, fun hneedless => absurd hneedless hneed⟩
    exact keysCalled_of_loadCount_succ (sound_run hs _) hcount hgiven moves

/-! ## Bursts -/

/-- Whatever the text is, none is live behind `Enter`. -/
theorem key_enter (c : Controller) (live : Bool) :
    (c.move (.input live (.key Key.enter.name))).editor.key = "" := by
  rw [move, handle_editor, Editor.react_key, Editor.press]
  by_cases htext : Text.trim c.editor.text = ""
  · have hidle : c.editor.enter c.provider.peek = { editor := c.editor } := by
      simp [Editor.enter, htext]
    rw [hidle]
    exact htext
  · rw [Editor.enter_eq c.provider.peek htext, Editor.key, Editor.commit_text]
    decide

theorem key_typing (c : Controller) {texts : List String} (hne : texts ≠ []) :
    (c.run ((typing texts).map (.input true))).editor.key = "" := by
  obtain ⟨init, t, rfl⟩ := (List.eq_nil_or_concat texts).resolve_left hne
  have htyping : typing (init.concat t) = (typing init ++ [.text t]) ++ [.key Key.enter.name] := by
    simp [typing]
  rw [htyping, List.map_append, List.map_singleton, run_concat]
  exact key_enter _ true

/-- The events of a burst schedule refreshes, which start behind it one after the other; others may
start or end before that, and loads may move on. From then on all that they cause is one call of the
source at most, for the key that is live at the end of the burst. They cause none if that key is blank,
a success or in flight when the first of them starts, and none at all if the burst enters the texts
that it types. -/
theorem bursts_are_coalesced {size : Int} {cache : Cache}
    (hcache : Cache.ofCapacity size = .ok cache) (moves : List Move) (burst : List InputEvent) :
    let c := run { provider := { cache } } moves
    let b := c.run (burst.map (.input true))
    let created := List.range' c.refreshCount (b.refreshCount - c.refreshCount)
    b.refreshes = c.refreshes ++ created.map (⟨·, none⟩) ∧
      ∀ between : List Move, (∀ m ∈ between, m.input? = none ∧ ∀ r ∈ created, m ≠ .start r) →
        let d := b.run between
        (∀ r ∈ created, ⟨r, none⟩ ∈ d.refreshes) ∧
          ∀ rest : List Move,
            let made := keysCalled d (d.run (created.map .start)) rest
            (made = [] ∨ made = [b.editor.key]) ∧
              (d.provider.Needless b.editor.key → made = []) ∧
              ∀ texts, burst = typing texts → made = [] := by
  intro c b created
  have hnew : Provider.Sound { cache } :=
    Provider.sound_new (Cache.valid_of_entries_nil (Cache.ofCapacity_eq hcache).1)
  have hnumbered : b.Numbered := ((numbered_new _).run moves).run _
  obtain ⟨n, hcount, hrefreshes⟩ := refreshes_burst c burst
  have hcreated : created = List.range' c.refreshCount n := by
    have hn : b.refreshCount - c.refreshCount = n := by
      rw [hcount, Nat.add_sub_cancel_left]
    exact congrArg (List.range' c.refreshCount) hn
  refine ⟨hcreated ▸ hrefreshes, ?_⟩
  intro between hbetween d
  have hkey : d.editor.key = b.editor.key :=
    key_of_bare (bare_run_of_input?_eq_none b fun m hm => (hbetween m hm).1)
  have hsound : d.provider.Sound := sound_run (sound_run (sound_run hnew moves) _) between
  refine ⟨?_, ?_⟩
  · intro r hr
    have hscheduled : ⟨r, none⟩ ∈ b.refreshes := by
      change _ ∈ (c.run (burst.map (.input true))).refreshes
      rw [hrefreshes, ← hcreated]
      exact List.mem_append_right _ (List.mem_map_of_mem hr)
    exact scheduled_run hnumbered hscheduled fun hstart => (hbetween _ hstart).2 r hr rfl
  · intro rest made
    obtain ⟨hone, hnone⟩ := keysCalled_starts hsound created rest
    rw [hkey] at hone hnone
    refine ⟨hone, hnone, ?_⟩
    rintro texts rfl
    by_cases hne : texts = []
    · subst hne
      have hnil : created = [] := by
        change List.range' c.refreshCount (c.refreshCount - c.refreshCount) = []
        rw [Nat.sub_self, List.range'_zero]
      change keysCalled d (d.run (created.map .start)) rest = []
      rw [hnil]
      exact keysCalled_of_loadCount_eq rfl rest
    · exact hnone (Or.inl (key_typing c hne))

/-- A call is out while a text is entered, another one is dropped and a third one is typed. -/
def callingMoves : List Move := [.input true (.text "b"), .start 0, .provider (.call 0)]

def hastyEvents : List InputEvent :=
  [.text "x", .key "Enter", .text "a", .key "Escape", .text "a "]

/-- The call fails before the refreshes of the burst start. -/
def failureMoves : List Move :=
  [.provider (.receive 0 (.failure (some 500) none)), .provider (.settle 0)]

theorem bursts_are_coalesced_hasty :
    let c := run { provider := { cache := { capacity := 2 } } } callingMoves
    let b := c.run (hastyEvents.map (.input true))
    let created := List.range' c.refreshCount (b.refreshCount - c.refreshCount)
    let d := b.run failureMoves
    Cache.ofCapacity 2 = .ok { capacity := 2 } ∧ created = [1, 2, 3, 4, 5] ∧
      (∀ r ∈ created, ⟨r, none⟩ ∈ d.refreshes) ∧
        keysCalled d (d.run (created.map .start))
          [.provider (.call 2), .provider (.call 1), .provider (.call 1)] = ["a"] := by
  intro c b created d
  have hcache : Cache.ofCapacity 2 = .ok { capacity := 2 } := rfl
  obtain ⟨-, h⟩ := bursts_are_coalesced hcache callingMoves hastyEvents
  obtain ⟨hscheduled, hcalls⟩ := h failureMoves (by simp [failureMoves, Move.input?])
  obtain ⟨hone, -⟩ := hcalls [.provider (.call 2), .provider (.call 1), .provider (.call 1)]
  have hcreated : created = [1, 2, 3, 4, 5] := by decide +kernel
  have hcalled : keysCalled d (d.run (created.map .start))
      [.provider (.call 2), .provider (.call 1), .provider (.call 1)] ≠ [] := by
    decide +kernel
  have hkey : b.editor.key = "a" := by decide +kernel
  refine ⟨hcache, hcreated, hscheduled, ?_⟩
  rw [← hkey]
  exact hone.resolve_left hcalled

end Formulary.Controller

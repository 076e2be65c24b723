import Formulary.CommandLine.Call
import Formulary.Proofs.Config.Message
import Formulary.Proofs.Terminal.Conversation
import Formulary.Proofs.Value.Display

/-!
# How a call ends

A call that is refused ends with code 2, whatever its command is, and a setting that cannot be read is
reported in one line. A call that gets as far as its command ends with code 0 or 1, unless it breaks
off without a word: two names of log levels break off every command, a cache without room breaks off
those that fetch suggestions, and a value that cannot be displayed breaks off the evaluation of a
formula.
-/

namespace Formulary.CommandLine

open Text (OneLine)

/-! ## Commands -/

variable {c : Config}

/-- The formula has a value, which cannot be displayed. -/
def Undisplayed (c : Config) (texts : List String) : Prop :=
  ∃ v e, Formula.compute c.scope (texts.map Token.ofText) = .ok v ∧ v.display? = .error e

section

variable {texts : List String}

theorem undisplayed_iff : Undisplayed c texts ↔
    ∃ v, Formula.compute c.scope (texts.map Token.ofText) = .ok v ∧ ¬ v.Displayable := by
  constructor
  · rintro ⟨v, e, hv, hdisplay⟩
    refine ⟨v, hv, fun hdisplayable => ?_⟩
    exact ne_error_of_ok (Value.display?_eq_ok_iff.mpr hdisplayable) hdisplay
  · rintro ⟨v, hv, hdisplayable⟩
    exact ⟨v, _, hv, Value.display?_of_not_displayable hdisplayable⟩

theorem evalReport_of_displayable {v : Value}
    (hv : Formula.compute c.scope (texts.map Token.ofText) = .ok v) (h : v.Displayable)
    (p : Palette) : evalReport c p texts = { out := v.display ++ "\n" } := by
  obtain ⟨s, hs⟩ := Value.display?_eq_ok_iff.mpr h
  simp only [evalReport, hv, Value.display, hs]

theorem evalReport_of_not_displayable {v : Value}
    (hv : Formula.compute c.scope (texts.map Token.ofText) = .ok v) (h : ¬ v.Displayable)
    (p : Palette) : evalReport c p texts = .aborted (.value .tooManyDigits) := by
  simp only [evalReport, hv, Value.display?_of_not_displayable h]

theorem exit_evalReport (p : Palette) (h : ¬ Undisplayed c texts) :
    ∃ n ≤ 1, (evalReport c p texts).exit = .ok n := by
  cases hv : Formula.compute c.scope (texts.map Token.ofText) with
  | ok v =>
    have hdisplayable : v.Displayable := not_not.mp fun hnot => h (undisplayed_iff.mpr ⟨v, hv, hnot⟩)
    rw [evalReport_of_displayable hv hdisplayable p]
    exact ⟨0, by decide, rfl⟩
  | error e =>
    refine ⟨1, by decide, ?_⟩
    rw [evalReport, hv]

theorem evalReport_undisplayed (p : Palette) (h : Undisplayed c texts) :
    ∃ e, evalReport c p texts = .aborted (.value e) := by
  obtain ⟨v, hv, hdisplayable⟩ := undisplayed_iff.mp h
  exact ⟨_, evalReport_of_not_displayable hv hdisplayable p⟩

end

theorem exit_infoReport (h : c.scope.Parsed) (p : Palette) : (infoReport c p).exit = .ok 0 := by
  unfold infoReport
  dsimp only
  split
  · rename_i e herror
    refine absurd herror (ne_error_of_ok (Scope.listed_ok h.read _ ?_))
    exact fun b hb => exists_bind_ok hb fun t => ⟨_, rfl⟩
  · rfl

theorem provider_eq_ok (h : 1 ≤ c.cacheSize) : ∃ p, c.provider = .ok p := by
  unfold Config.provider Cache.ofCapacity
  rw [dif_pos h]
  exact ⟨_, rfl⟩

theorem provider_eq_error (h : c.cacheSize < 1) : c.provider = .error ⟨c.cacheSize⟩ := by
  unfold Config.provider Cache.ofCapacity
  rw [dif_neg (Int.not_le.mpr h)]
  rfl

theorem exit_suggestReport (h : 1 ≤ c.cacheSize) (p : Palette) (reply : String → Reply)
    (query : String) : ∃ n ≤ 1, (suggestReport c p reply query).value.exit = .ok n := by
  obtain ⟨provider, hprovider⟩ := provider_eq_ok h
  rw [suggestReport, hprovider]
  simp only [Noted.value_bind]
  split
  · exact ⟨0, by decide, rfl⟩
  · exact ⟨0, by decide, rfl⟩
  · exact ⟨1, by decide, rfl⟩
  · exact ⟨0, by decide, rfl⟩

theorem exit_replReport (h : 1 ≤ c.cacheSize) (hscope : c.scope.Parsed) (p : Palette)
    (reply : String → Reply) (inputs : List UserInput) :
    (replReport c p reply inputs).value.exit = .ok 0 := by
  obtain ⟨provider, hprovider⟩ := provider_eq_ok h
  let s : Session := { config := c, palette := p, controller := { provider }, supply := c.supply reply }
  have hcreate : Session.create c p reply = .ok s := by
    rw [Session.create, hprovider]
    rfl
  have hover : (s.transcript inputs).value.2.1 = .over :=
    (Session.settled_create hcreate).transcript_over hscope inputs
  rw [replReport, hcreate]
  dsimp only
  rw [Noted.value_bind, hover]
  rfl

variable {i : Invocation} {p : Palette} {reply : String → Reply} {inputs : List UserInput}

/-- Suggestions are fetched in conversations and for single queries. -/
theorem report_without_room (hcommand : i.command ∈ [.repl, .suggest]) (h : c.cacheSize < 1) :
    (i.report c p reply inputs).value = .aborted (.capacity ⟨c.cacheSize⟩) := by
  have hprovider := provider_eq_error h
  unfold Invocation.report
  simp only [List.mem_cons, List.not_mem_nil, or_false] at hcommand
  rcases hcommand with hcommand | hcommand <;> rw [hcommand]
  · simp only [replReport, Session.create, hprovider]
    rfl
  · simp only [suggestReport, hprovider]
    rfl

theorem report_eval (hcommand : i.command = .eval) :
    (i.report c p reply inputs).value = evalReport c p i.operands := by
  rw [Invocation.report, hcommand]
  exact Noted.value_pure _

theorem exit_report (hscope : c.scope.Parsed)
    (hroom : i.command ∈ [.repl, .suggest] → 1 ≤ c.cacheSize)
    (hvalue : i.command = .eval → ¬ Undisplayed c i.operands) :
    ∃ n ≤ 1, (i.report c p reply inputs).value.exit = .ok n := by
  cases hcommand : i.command with
  | eval =>
    rw [report_eval hcommand]
    exact exit_evalReport p (hvalue hcommand)
  | repl =>
    rw [hcommand] at hroom
    rw [Invocation.report, hcommand]
    exact ⟨0, by decide, exit_replReport (hroom (by decide)) hscope p reply inputs⟩
  | suggest =>
    rw [hcommand] at hroom
    rw [Invocation.report, hcommand]
    exact exit_suggestReport (hroom (by decide)) p reply _
  | info =>
    rw [Invocation.report, hcommand]
    exact ⟨0, by decide, exit_infoReport hscope p⟩

/-! ## Calls -/

theorem parsed_config {env : Environment} (h : i.config env = .ok c) : c.scope.Parsed := by
  unfold Invocation.config at h
  dsimp only at h
  obtain ⟨base, hbase, h⟩ := bind_eq_ok h
  split at h
  · rw [pure_bind] at h
    rw [← Except.ok.inj h]
    have hparsed := Config.parsed_ofEnvironment hbase
    exact hparsed
  · obtain ⟨scope, hscope, h⟩ := bind_eq_ok h
    rw [← Except.ok.inj h]
    exact Config.parsed_readScope hscope

/-- The names of log levels that break a call off. -/
def strayLevels : List String := ["BASIC_FORMAT", "_STYLES"]

theorem logThreshold_eq_error_iff {level : String} :
    (∃ a, logThreshold level = .error a) ↔ level ∈ strayLevels := by
  constructor
  · rintro ⟨a, h⟩
    unfold logThreshold at h
    split at h
    case h_6 | h_7 => decide
    all_goals cases h
  · intro h
    simp only [strayLevels, List.mem_cons, List.not_mem_nil, or_false] at h
    rcases h with rfl | rfl <;> exact ⟨_, rfl⟩

theorem Stop.exit_report (stop : Stop) : stop.report.exit = .ok 0 ∨ stop.report.exit = .ok 2 := by
  cases stop with
  | help | version => exact Or.inl rfl
  | misuse => exact Or.inr rfl

variable {arguments : List String} {env : Environment}

theorem call_stopped {stop : Stop} (h : Invocation.ofArguments arguments = .error stop) :
    (call arguments env p reply inputs).1 = stop.report := by
  simp only [call, prepare, h, Except.mapError, bind, Except.bind]

theorem call_refused {e : SettingError} (hi : Invocation.ofArguments arguments = .ok i)
    (he : i.config env = .error e) :
    (call arguments env p reply inputs).1 = .refused (errorLine p s!"Error: {e.message}") := by
  simp only [call, prepare, hi, he, Except.mapError, bind, Except.bind]

theorem call_broken_off {a : Abort} (hi : Invocation.ofArguments arguments = .ok i)
    (hc : i.config env = .ok c) (ha : logThreshold c.logLevel = .error a) :
    (call arguments env p reply inputs).1 = .aborted a := by
  simp only [call, prepare, hi, hc, ha, Except.mapError, bind, Except.bind]

theorem call_reported {n : Nat} (hi : Invocation.ofArguments arguments = .ok i)
    (hc : i.config env = .ok c) (hn : logThreshold c.logLevel = .ok n) :
    (call arguments env p reply inputs).1 = (i.report c p reply inputs).value := by
  simp only [call, prepare, hi, hc, hn, Except.mapError, bind, Except.bind, pure, Except.pure]

/-- A log level by a stray name breaks off every command, a cache without room those that fetch
suggestions, and a value that cannot be displayed the evaluation of its formula. -/
theorem call_unusable (hi : Invocation.ofArguments arguments = .ok i) (hc : i.config env = .ok c)
    (h : c.logLevel ∈ strayLevels ∨ i.command ∈ [.repl, .suggest] ∧ c.cacheSize < 1 ∨
      i.command = .eval ∧ Undisplayed c i.operands) :
    ∃ a, (call arguments env p reply inputs).1 = .aborted a := by
  cases hlevel : logThreshold c.logLevel with
  | error a => exact ⟨a, call_broken_off hi hc hlevel⟩
  | ok n =>
    rcases h with hstray | ⟨hcommand, hsize⟩ | ⟨hcommand, hvalue⟩
    · obtain ⟨a, ha⟩ := logThreshold_eq_error_iff.mpr hstray
      rw [ha] at hlevel
      cases hlevel
    · exact ⟨_, (call_reported hi hc hlevel).trans (report_without_room hcommand hsize)⟩
    · obtain ⟨e, he⟩ := evalReport_undisplayed p hvalue
      exact ⟨_, (call_reported hi hc hlevel).trans ((report_eval hcommand).trans he)⟩

theorem call_usable (hi : Invocation.ofArguments arguments = .ok i) (hc : i.config env = .ok c)
    (hlevel : c.logLevel ∉ strayLevels)
    (hroom : i.command ∈ [.repl, .suggest] → 1 ≤ c.cacheSize)
    (hvalue : i.command = .eval → ¬ Undisplayed c i.operands) :
    ∃ n ≤ 1, (call arguments env p reply inputs).1.exit = .ok n := by
  cases hthreshold : logThreshold c.logLevel with
  | error a => exact absurd (logThreshold_eq_error_iff.mp ⟨a, hthreshold⟩) hlevel
  | ok n =>
    rw [call_reported hi hc hthreshold]
    exact exit_report (parsed_config hc) hroom hvalue

/-- Arguments that do not tell what to run end a call with code 0 or 2, and a setting that cannot be
read ends it with code 2 and one line. With all settings read it ends with code 0 or 1, except that a
log level by a stray name, a cache without room where suggestions are fetched, or a value that cannot be
displayed breaks it off without a word. -/
theorem ends_with_code (arguments : List String) (env : Environment) (p : Palette)
    (reply : String → Reply) (inputs : List UserInput) :
    let r := (call arguments env p reply inputs).1
    (∀ stop, Invocation.ofArguments arguments = .error stop → r.exit = .ok 0 ∨ r.exit = .ok 2) ∧
      ∀ i, Invocation.ofArguments arguments = .ok i →
        (∀ e, i.config env = .error e →
          let line := p.paint [.red] s!"Error: {e.message}"
          r = { exit := .ok 2, err := line ++ "\n" } ∧ OneLine line) ∧
        ∀ c, i.config env = .ok c →
          (c.logLevel ∉ strayLevels → (i.command ∈ [.repl, .suggest] → 1 ≤ c.cacheSize) →
            (i.command = .eval → ¬ Undisplayed c i.operands) → ∃ n ≤ 1, r.exit = .ok n) ∧
          (c.logLevel ∈ strayLevels ∨ i.command ∈ [.repl, .suggest] ∧ c.cacheSize < 1 ∨
              i.command = .eval ∧ Undisplayed c i.operands →
            ∃ a, r = { exit := .error a }) := by
  intro r
  refine ⟨fun stop hstop => ?_, fun i hi => ⟨fun e he => ⟨?_, ?_⟩, fun c hc => ⟨?_, ?_⟩⟩⟩
  · have hr : r = stop.report := call_stopped hstop
    rw [hr]
    exact stop.exit_report
  · exact call_refused hi he
  · exact Palette.oneLine_paint (.append (by decide) e.oneLine_message) p .red
  · exact call_usable hi hc
  · exact call_unusable hi hc

/-- A size that is no number is refused by a command that does not use it, but a size of zero only
matters to the one that does. -/
theorem ends_with_code_by_size :
    let reply : String → Reply := fun _ => .refused "timed out"
    let report := fun (arguments : List String) (size : String) =>
      (call arguments [("FORMULABUILDER_CACHE_SIZE", size)] ⟨false⟩ reply []).1
    (report ["info"] "many").exit = .ok 2 ∧ (∃ n ≤ 1, (report ["info"] "0").exit = .ok n) ∧
      ∃ a, report ["suggest", "x"] "0" = { exit := .error a } := by
  intro reply report
  let info : Invocation :=
    { command := .info, operands := [], endpoint := none, timeout := none, bindings := [],
      logLevel := none }
  let suggest : Invocation := { info with command := .suggest, operands := ["x"] }
  have hinfo : Invocation.ofArguments ["info"] = .ok info := by with_unfolding_all rfl
  have hsuggest : Invocation.ofArguments ["suggest", "x"] = .ok suggest := by with_unfolding_all rfl
  have hmany : info.config [("FORMULABUILDER_CACHE_SIZE", "many")] =
    .error (.cacheSize (.malformed "many")) := rfl
  have hzero : info.config [("FORMULABUILDER_CACHE_SIZE", "0")] = .ok { cacheSize := 0 } := rfl
  have hzero' : suggest.config [("FORMULABUILDER_CACHE_SIZE", "0")] = .ok { cacheSize := 0 } := rfl
  obtain ⟨hrefused, -⟩ := ((ends_with_code ["info"] _ ⟨false⟩ reply []).2 info hinfo).1 _ hmany
  obtain ⟨husable, -⟩ := ((ends_with_code ["info"] _ ⟨false⟩ reply []).2 info hinfo).2 _ hzero
  obtain ⟨-, hunusable⟩ :=
    ((ends_with_code ["suggest", "x"] _ ⟨false⟩ reply []).2 suggest hsuggest).2 _ hzero'
  exact ⟨congrArg Report.exit hrefused, husable (by decide) nofun nofun,
    hunusable (Or.inr (Or.inl ⟨by decide, by decide⟩))⟩

/-- A cache without room breaks off the command that fetches suggestions. -/
theorem suggest_without_room :
    ¬ ∀ arguments env p reply inputs, ∃ n, (call arguments env p reply inputs).1.exit = .ok n := by
  intro h
  obtain ⟨n, hn⟩ := h ["suggest", "x"] [("FORMULABUILDER_CACHE_SIZE", "0")] ⟨false⟩
    (fun _ => .refused "timed out") []
  have hexit : (call ["suggest", "x"] [("FORMULABUILDER_CACHE_SIZE", "0")] ⟨false⟩
    (fun _ => .refused "timed out") []).1.exit = .error (.capacity ⟨0⟩) := by decide +kernel
  rw [hexit] at hn
  cases hn

end Formulary.CommandLine

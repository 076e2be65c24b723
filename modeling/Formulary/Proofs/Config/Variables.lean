import Formulary.CommandLine.Invocation
import Formulary.Proofs.Config.Binding
import Formulary.Proofs.Text.Trimming

/-!
# Variables given as texts

Variables are bound by texts that are given one by one, or joined by commas as one setting. Which way is
taken makes no difference, since the blanks around a binding make none. Written with any blanks around
its parts, an integer is read back; the first mention of a name fixes its place and the last one its
value.
-/

namespace Formulary

/-! ## Places and values in a scope -/

namespace Scope

variable {s : Scope} {name : String} {v : Value}

theorem names_bind (s : Scope) (name : String) (v : Value) :
    (s.bind name v).map Prod.fst =
      if name ∈ s.map Prod.fst then s.map Prod.fst else s.map Prod.fst ++ [name] := by
  induction s with
  | nil => rfl
  | cons b rest ih =>
    obtain ⟨n, w⟩ := b
    by_cases hn : n = name
    · simp [bind, hn]
    · have hne : ¬ name = n := fun h => hn h.symm
      simp only [bind, hn, if_false, List.map_cons, ih, List.mem_cons, hne, false_or]
      split <;> rfl

theorem ofList_concat (bindings : List (String × Value)) (b : String × Value) :
    ofList (bindings ++ [b]) = (ofList bindings).bind b.1 b.2 := by
  rw [ofList, List.foldl_append]
  rfl

/-- A name has the place of its first mention. -/
theorem names_ofList (bindings : List (String × Value)) :
    (ofList bindings).map Prod.fst = (bindings.map Prod.fst).eraseDups := by
  induction bindings using List.reverseRecOn with
  | nil => rfl
  | append_singleton bindings b ih =>
    rw [ofList_concat, names_bind, ih, List.map_append, List.map_singleton, List.eraseDups_append,
      List.removeAll]
    by_cases hmem : b.1 ∈ bindings.map Prod.fst
    · rw [if_pos (List.mem_eraseDups.mpr hmem), List.filter_cons_of_neg (by simpa using hmem),
        List.filter_nil, List.eraseDups_nil, List.append_nil]
    · rw [if_neg (mt List.mem_eraseDups.mp hmem), List.filter_cons_of_pos (by simpa using hmem),
        List.filter_nil]
      rfl

/-- A name has the value of its last mention. -/
theorem get?_ofList (bindings : List (String × Value)) (name : String) :
    (ofList bindings).get? name = bindings.reverse.lookup name := by
  induction bindings using List.reverseRecOn with
  | nil => rfl
  | append_singleton bindings b ih =>
    rw [ofList_concat, List.reverse_append, List.reverse_singleton, List.singleton_append]
    by_cases hname : name = b.1
    · rw [hname, get?_bind_same, List.lookup_cons_self]
    · rw [get?_bind_other _ hname, ih, List.lookup_cons, beq_false_of_ne hname]

end Scope

/-! ## Readings that fail or not -/

variable {α β ε : Type}

theorem toOption_bind (x : Except ε α) (f : α → Except ε β) :
    (x >>= f).toOption = x.toOption >>= fun a => (f a).toOption := by
  cases x <;> rfl

theorem toOption_map (f : α → β) (x : Except ε α) : (f <$> x).toOption = x.toOption.map f := by
  cases x <;> rfl

theorem toOption_mapError {δ : Type} (f : ε → δ) (x : Except ε α) :
    (x.mapError f).toOption = x.toOption := by
  cases x <;> rfl

theorem toOption_mapM (f : α → Except ε β) (xs : List α) :
    (xs.mapM f).toOption = xs.mapM fun x => (f x).toOption := by
  induction xs with
  | nil => rfl
  | cons x xs ih =>
    rw [List.mapM_cons, List.mapM_cons, ← ih, toOption_bind]
    congr 1
    funext y
    rw [toOption_bind]
    rfl

theorem eq_ok_of_toOption {x : Except ε α} {a : α} (h : x.toOption = some a) : x = .ok a := by
  cases x with
  | error e => cases h
  | ok b => exact congrArg Except.ok (Option.some.inj h)

theorem exists_error_of_toOption {x : Except ε α} (h : x.toOption = none) : ∃ e, x = .error e := by
  cases x with
  | error e => exact ⟨e, rfl⟩
  | ok b => cases h

/-! ## One binding -/

/-- What a name and a value are read as when they are trimmed. -/
def readParts (name value : String) : Option (String × Value) :=
  if name.isEmpty || value.isEmpty || !Text.isIdentifier name.toList then none
  else (readNumber? value).map fun v => (name, v)

theorem decide_ne_equals {cs : List Char} (h : '=' ∉ cs) : ∀ c ∈ cs, decide (c ≠ '=') = true :=
  fun _ hc => decide_eq_true fun heq => h (heq ▸ hc)

theorem equals_not_mem_blanks {cs : List Char} (h : ∀ c ∈ cs, Text.isBlank c = true) : '=' ∉ cs := by
  intro hmem
  have hblank := h '=' hmem
  cases hblank

theorem equals_not_mem_identifier {cs : List Char} (h : Text.isIdentifier cs = true) : '=' ∉ cs := by
  intro hmem
  have hplain := (Text.of_mem_identifier h hmem).2 (by decide)
  cases hplain

theorem span_equals {before after : List Char} (h : '=' ∉ before) :
    (before ++ '=' :: after).span (· ≠ '=') = (before, '=' :: after) := by
  have hbefore := decide_ne_equals h
  rw [List.span_eq_takeWhile_dropWhile, List.takeWhile_append_of_pos hbefore,
    List.dropWhile_append_of_pos hbefore, List.takeWhile_cons_of_neg (by decide),
    List.dropWhile_cons_of_neg (by decide), List.append_nil]

theorem toOption_parseBinding_of_equals {text : String} {before after : List Char}
    (htext : text.toList = before ++ '=' :: after) (h : '=' ∉ before) :
    (parseBinding text).toOption =
      readParts (Text.trim (String.ofList before)) (Text.trim (String.ofList after)) := by
  simp only [parseBinding, splitBinding, htext, span_equals h, List.isEmpty_cons, List.drop_one,
    List.tail_cons, Bool.false_or]
  generalize Text.trim (String.ofList before) = name
  generalize Text.trim (String.ofList after) = value
  unfold readParts
  cases name.isEmpty <;> cases value.isEmpty <;> cases Text.isIdentifier name.toList <;>
    cases readNumber? value <;> rfl

theorem toOption_parseBinding_of_no_equals {text : String} (h : '=' ∉ text.toList) :
    (parseBinding text).toOption = none := by
  have hrest : text.toList.dropWhile (· ≠ '=') = [] :=
    List.dropWhile_eq_nil_iff.mpr (decide_ne_equals h)
  simp only [parseBinding, splitBinding, List.span_eq_takeWhile_dropWhile, hrest, List.isEmpty_nil,
    Bool.true_or, if_true]
  rfl

/-- The blanks around a binding make no difference, except to the text of an error. -/
theorem toOption_parseBinding_trim (text : String) :
    (parseBinding (Text.trim text)).toOption = (parseBinding text).toOption := by
  obtain ⟨before, after, hbefore, hafter, hsplit⟩ := Text.exists_trimChars_append text.toList
  by_cases h : '=' ∈ Text.trimChars text.toList
  · obtain ⟨name, value, hcut, hname⟩ := List.eq_append_cons_of_mem h
    have htext : text.toList = (before ++ name) ++ '=' :: (value ++ after) :=
      hsplit.trans (by rw [hcut]; simp)
    have hname' : '=' ∉ before ++ name := by
      rw [List.mem_append, not_or]
      exact ⟨equals_not_mem_blanks hbefore, hname⟩
    rw [toOption_parseBinding_of_equals htext hname',
      toOption_parseBinding_of_equals ((Text.toList_trim text).trans hcut) hname]
    simp only [Text.trim_ofList, Text.trimChars_append_left hbefore,
      Text.trimChars_append_right _ hafter]
  · have h' : '=' ∉ text.toList := by
      rw [hsplit, List.mem_append, List.mem_append, not_or, not_or]
      exact ⟨⟨equals_not_mem_blanks hbefore, h⟩, equals_not_mem_blanks hafter⟩
    have htrim : '=' ∉ (Text.trim text).toList := by rwa [Text.toList_trim]
    rw [toOption_parseBinding_of_no_equals h', toOption_parseBinding_of_no_equals htrim]

/-! ## Several bindings -/

theorem toOption_parseScope (bindings : List String) :
    (parseScope bindings).toOption =
      ((bindings.map Text.trim).mapM fun b => (parseBinding b).toOption).map Scope.ofList := by
  have htrim : (fun b => (parseBinding b).toOption) ∘ Text.trim =
      fun b => (parseBinding b).toOption := by
    funext b
    rw [Function.comp_apply, toOption_parseBinding_trim]
  rw [parseScope, toOption_map, toOption_mapM, List.mapM_map, htrim]

theorem toOption_parseScope_congr {bindings bindings' : List String}
    (h : bindings.map Text.trim = bindings'.map Text.trim) :
    (parseScope bindings).toOption = (parseScope bindings').toOption := by
  rw [toOption_parseScope, h, ← toOption_parseScope]

/-- Texts that a comma can join: not blank, and without a comma. -/
def Joinable (bindings : List String) : Prop :=
  bindings ≠ [] ∧ ∀ b ∈ bindings, Text.trim b ≠ "" ∧ ',' ∉ b.toList

variable {bindings : List String}

theorem trimmedParts_join (h : Joinable bindings) :
    (Text.trimmedParts (· == ',') (Text.trim (",".intercalate bindings)).toList).map String.ofList =
      bindings.map Text.trim := by
  have hblank : ∀ c, Text.isBlank c = true → (c == ',') = false := by
    intro c hc
    rw [beq_eq_false_iff_ne]
    rintro rfl
    cases hc
  have hparts : ∀ cs ∈ bindings.map String.toList, ',' ∉ cs := by
    intro cs hcs
    obtain ⟨b, hb, rfl⟩ := List.mem_map.mp hcs
    exact (h.2 b hb).2
  have hjoin : (",".intercalate bindings).toList.splitOnP (· == ',') = bindings.map String.toList := by
    rw [String.toList_intercalate, ← List.splitOn_eq_splitOnP]
    exact List.splitOn_intercalate ',' hparts (by simpa using h.1)
  rw [Text.toList_trim, Text.trimmedParts_trimChars hblank, Text.trimmedParts, hjoin, List.map_map,
    List.map_map]
  rfl

namespace Config

theorem bindingParts_join (h : Joinable bindings) :
    (bindingParts (Text.trim (",".intercalate bindings))).map Text.trim = bindings.map Text.trim := by
  have hparts : (((Text.trim (",".intercalate bindings)).toList.splitOnP (· == ',')).map
      String.ofList).map Text.trim = bindings.map Text.trim := by
    rw [← trimmedParts_join h, Text.trimmedParts, List.map_map, List.map_map]
    exact List.map_congr_left fun cs _ => Text.trim_ofList cs
  have hnone : ∀ b ∈ bindings.map Text.trim, (!b.isEmpty) = true := by
    intro b hb
    obtain ⟨text, htext, rfl⟩ := List.mem_map.mp hb
    simpa using (h.2 text htext).1
  have hfilter := List.filter_map (p := fun b : String => !b.isEmpty) (f := Text.trim)
    (l := ((Text.trim (",".intercalate bindings)).toList.splitOnP (· == ',')).map String.ofList)
  rw [hparts, List.filter_eq_self.mpr hnone] at hfilter
  exact hfilter.symm

theorem trim_join_ne_empty (h : Joinable bindings) :
    Text.trim (",".intercalate bindings) ≠ "" := by
  intro hempty
  have hparts := trimmedParts_join h
  rw [hempty, String.toList_empty, Text.trimmedParts_of_none (by simp)] at hparts
  obtain ⟨b, rest, rfl⟩ := List.exists_cons_of_ne_nil h.1
  have hfirst : "" = Text.trim b := (List.cons.inj hparts).1
  exact (h.2 b List.mem_cons_self).1 hfirst.symm

/-! ## The two ways -/

variable {env : Environment}

/-- The variables of the environment take their part in the settings on their own. -/
theorem ofEnvironment_scope (h : setting? env "SCOPE" = none) (v : String) :
    ofEnvironment (("FORMULABUILDER_SCOPE", v) :: env) = do
      let c ← ofEnvironment env
      let scope ← if (Text.trim v).isEmpty then pure .default
        else readScope (bindingParts (Text.trim v))
      return { c with scope } := by
  have hscope : setting? (("FORMULABUILDER_SCOPE", v) :: env) "SCOPE" = some v := rfl
  have hother : ∀ name ∈ ["AUTOCOMPLETE_URL", "TIMEOUT", "CACHE_SIZE", "LOG_LEVEL"],
      setting? (("FORMULABUILDER_SCOPE", v) :: env) name = setting? env name := by
    intro name hname
    simp only [List.mem_cons, List.not_mem_nil, or_false] at hname
    rcases hname with rfl | rfl | rfl | rfl <;> rfl
  have hblank : (Text.trim "").isEmpty = true := rfl
  simp only [ofEnvironment, hscope, h, hother "AUTOCOMPLETE_URL" (by simp),
    hother "TIMEOUT" (by simp), hother "CACHE_SIZE" (by simp), hother "LOG_LEVEL" (by simp),
    Option.getD_some, Option.getD_none, hblank, if_true, bind_assoc, pure_bind]

theorem ofEnvironment_join (henv : setting? env "SCOPE" = none) (h : Joinable bindings) :
    ofEnvironment (("FORMULABUILDER_SCOPE", ",".intercalate bindings) :: env) = do
      let c ← ofEnvironment env
      let scope ← readScope (bindingParts (Text.trim (",".intercalate bindings)))
      return { c with scope } := by
  have hne : (Text.trim (",".intercalate bindings)).isEmpty = false := by
    simpa using trim_join_ne_empty h
  rw [ofEnvironment_scope henv, hne]
  rfl

theorem toOption_readScope_join (h : Joinable bindings) :
    (readScope (bindingParts (Text.trim (",".intercalate bindings)))).toOption =
      (parseScope bindings).toOption := by
  rw [readScope, toOption_mapError]
  exact toOption_parseScope_congr (bindingParts_join h)

/-- Variables that are joined in the environment are those given one by one. -/
theorem scope_of_join {c : Config} (henv : setting? env "SCOPE" = none)
    (hc : ofEnvironment env = .ok c) (h : Joinable bindings) :
    (∀ s, parseScope bindings = .ok s →
      ofEnvironment (("FORMULABUILDER_SCOPE", ",".intercalate bindings) :: env) =
        .ok { c with scope := s }) ∧
    ∀ e, parseScope bindings = .error e → ∃ e',
      ofEnvironment (("FORMULABUILDER_SCOPE", ",".intercalate bindings) :: env) =
        .error (.binding e') := by
  have hread := toOption_readScope_join h
  rw [ofEnvironment_join henv h, hc]
  constructor
  · intro s hs
    rw [hs] at hread
    rw [eq_ok_of_toOption hread]
    rfl
  · intro e he
    rw [he, readScope, toOption_mapError] at hread
    obtain ⟨e', he'⟩ := exists_error_of_toOption hread
    rw [readScope, he']
    exact ⟨e', rfl⟩

end Config

open CommandLine in
/-- A call has the same settings if its variables are joined in the environment. -/
theorem toOption_config_join {env : Environment} (henv : Config.setting? env "SCOPE" = none)
    (h : Joinable bindings) (i : Invocation) :
    ({ i with bindings := [] }.config
        (("FORMULABUILDER_SCOPE", ",".intercalate bindings) :: env)).toOption =
      ({ i with bindings }.config env).toOption := by
  have hread := Config.toOption_readScope_join h
  rw [← toOption_mapError SettingError.binding, ← Config.readScope] at hread
  have hsome : bindings.isEmpty = false := by simpa using h.1
  rw [Invocation.config, Invocation.config, Config.ofEnvironment_join henv h]
  simp only [hsome]
  generalize Config.readScope (Config.bindingParts (Text.trim (",".intercalate bindings))) = joined
    at hread ⊢
  generalize Config.readScope bindings = separate at hread ⊢
  cases Config.ofEnvironment env with
  | error e => rfl
  | ok c =>
    cases joined with
    | error e =>
      obtain ⟨e', rfl⟩ := exists_error_of_toOption hread.symm
      rfl
    | ok scope =>
      obtain rfl := eq_ok_of_toOption hread.symm
      rfl

/-! ## Integers written and read -/

/-- The text binds a name to an integer, with any blanks around the two. -/
def Binds (text : String) (b : String × Int) : Prop :=
  ∃ w₁ w₂ w₃ w₄ : List Char, (∀ w ∈ [w₁, w₂, w₃, w₄], ∀ c ∈ w, Text.isBlank c = true) ∧
    text.toList = w₁ ++ b.1.toList ++ w₂ ++ '=' :: (w₃ ++ (toString b.2).toList ++ w₄)

theorem isBlank_of_mem_toString {n : Int} {c : Char} (h : c ∈ (toString n).toList) :
    Text.isBlank c = false := by
  rw [Decimal.toString_int, String.toList_ofList, List.mem_append] at h
  rcases h with hsign | hdigit
  · rw [Decimal.signText] at hsign
    split at hsign
    · rw [List.mem_singleton.mp hsign]
      rfl
    · cases hsign
  · exact Text.isBlank_of_isPlainChar (Text.isPlainChar_of_mem_numeral hdigit)

theorem parseBinding_of_binds {text : String} {b : String × Int} (h : Binds text b)
    (hname : Text.isIdentifier b.1.toList = true)
    (hdigits : (Nat.toDigits 10 b.2.natAbs).length ≤ Decimal.maxIntegerDigits) :
    parseBinding text = .ok (b.1, .int b.2) := by
  obtain ⟨w₁, w₂, w₃, w₄, hblank, htext⟩ := h
  simp only [List.forall_mem_cons] at hblank
  obtain ⟨h₁, h₂, h₃, h₄, -⟩ := hblank
  have hequals : '=' ∉ w₁ ++ b.1.toList ++ w₂ := by
    simp only [List.mem_append, not_or]
    exact ⟨⟨equals_not_mem_blanks h₁, equals_not_mem_identifier hname⟩, equals_not_mem_blanks h₂⟩
  have hvalue : readNumber? (toString b.2) = some (.int b.2) := by
    rw [readNumber?, Decimal.readInt_toString hdigits]
  have hname' : b.1.isEmpty = false := by
    rw [Bool.eq_false_iff, ne_eq, String.isEmpty_iff]
    intro hempty
    rw [hempty] at hname
    cases hname
  have hvalue' : (toString b.2).isEmpty = false := by
    rw [Bool.eq_false_iff, ne_eq, String.isEmpty_iff, Decimal.toString_int, String.ofList_eq_empty_iff,
      List.append_eq_nil_iff]
    exact fun hnil => Nat.toDigits_ne_nil hnil.2
  apply eq_ok_of_toOption
  rw [toOption_parseBinding_of_equals htext hequals, Text.trim_ofList, Text.trim_ofList,
    Text.trimChars_padded h₁ (fun c hc => (Text.of_mem_identifier hname hc).1) h₂,
    Text.trimChars_padded h₃ (fun c hc => isBlank_of_mem_toString hc) h₄, String.ofList_toList,
    String.ofList_toList, readParts, hname, hvalue, hname', hvalue']
  rfl

theorem mapM_parseBinding_of_binds {texts : List String} {bindings : List (String × Int)}
    (h : List.Forall₂ Binds texts bindings)
    (hread : ∀ b ∈ bindings, Text.isIdentifier b.1.toList = true ∧
      (Nat.toDigits 10 b.2.natAbs).length ≤ Decimal.maxIntegerDigits) :
    texts.mapM parseBinding = .ok (bindings.map fun b => (b.1, .int b.2)) := by
  induction h with
  | nil => rfl
  | @cons text b texts bindings hbinds _ ih =>
    obtain ⟨⟨hname, hdigits⟩, hrest⟩ := List.forall_mem_cons.mp hread
    rw [List.mapM_cons, parseBinding_of_binds hbinds hname hdigits, ih hrest]
    rfl

theorem lookup_map_value (f : Int → Value) (bindings : List (String × Int)) (name : String) :
    (bindings.map fun b => (b.1, f b.2)).lookup name = (bindings.lookup name).map f := by
  induction bindings with
  | nil => rfl
  | cons b rest ih =>
    rw [List.map_cons, List.lookup_cons, List.lookup_cons, ih]
    split <;> rfl

/-- Integers that are read make a scope, each name in its first place and with its last value. -/
theorem parseScope_of_mapM {texts : List String} {bindings : List (String × Int)}
    (h : texts.mapM parseBinding = .ok (bindings.map fun b => (b.1, .int b.2))) :
    ∃ s, parseScope texts = .ok s ∧ s.map Prod.fst = (bindings.map Prod.fst).eraseDups ∧
      ∀ name, s.get? name = (bindings.reverse.lookup name).map .int := by
  refine ⟨Scope.ofList (bindings.map fun b => (b.1, .int b.2)), ?_, ?_, ?_⟩
  · rw [parseScope, h]
    rfl
  · rw [Scope.names_ofList, List.map_map]
    rfl
  · intro name
    rw [Scope.get?_ofList, ← List.map_reverse, lookup_map_value]

open CommandLine in
/-- Variables are the same whether they are given one by one or joined by commas in the environment, and
neither way reads them if the other does not. Integers that are bound in these texts, with any blanks,
are read back, each name in its first place and with its last value. -/
theorem variables_agree_and_are_read_back :
    (∀ (env : Environment) (bindings : List String), Config.setting? env "SCOPE" = none →
      Joinable bindings →
      let joined := ("FORMULABUILDER_SCOPE", ",".intercalate bindings) :: env
      (∀ c, Config.ofEnvironment env = .ok c →
        (∀ s, parseScope bindings = .ok s →
          Config.ofEnvironment joined = .ok { c with scope := s }) ∧
        ∀ e, parseScope bindings = .error e →
          ∃ e', Config.ofEnvironment joined = .error (.binding e')) ∧
      ∀ i : Invocation, ({ i with bindings := [] }.config joined).toOption =
        ({ i with bindings }.config env).toOption) ∧
    ∀ (texts : List String) (bindings : List (String × Int)),
      (∀ b ∈ bindings, Text.isIdentifier b.1.toList = true ∧
        (Nat.toDigits 10 b.2.natAbs).length ≤ 4300) →
      List.Forall₂ Binds texts bindings →
      texts.mapM parseBinding = .ok (bindings.map fun b => (b.1, .int b.2)) ∧
      ∃ s, parseScope texts = .ok s ∧ s.map Prod.fst = (bindings.map Prod.fst).eraseDups ∧
        ∀ name, s.get? name = (bindings.reverse.lookup name).map .int := by
  constructor
  · intro env bindings henv hjoin joined
    exact ⟨fun c hc => Config.scope_of_join henv hc hjoin, toOption_config_join henv hjoin⟩
  · intro texts bindings hread hbinds
    have hparsed := mapM_parseBinding_of_binds hbinds hread
    exact ⟨hparsed, parseScope_of_mapM hparsed⟩

/-- A name that is bound twice, and one that is no identifier. -/
theorem variables_agree_and_are_read_back_twice :
    let texts := ["x=1", "\ty = -2", "x =3 "]
    (∃ s, parseScope texts = .ok s ∧ s.map Prod.fst = ["x", "y"] ∧ s.get? "x" = some (.int 3) ∧
      Config.ofEnvironment [("FORMULABUILDER_SCOPE", "x=1,\ty = -2,x =3 ")] = .ok { scope := s }) ∧
    ∃ e, Config.ofEnvironment [("FORMULABUILDER_SCOPE", "x=1,1y=2")] = .error (.binding e) := by
  intro texts
  obtain ⟨hways, hread⟩ := variables_agree_and_are_read_back
  have hdefault : Config.ofEnvironment [] = .ok {} := rfl
  have hjoin : Joinable texts := ⟨by decide, by decide +kernel⟩
  have hwrong : Joinable ["x=1", "1y=2"] := ⟨by decide, by decide +kernel⟩
  have hbinds : List.Forall₂ Binds texts [("x", 1), ("y", -2), ("x", 3)] :=
    .cons ⟨[], [], [], [], by simp [Text.isBlank], rfl⟩ <|
    .cons ⟨['\t'], [' '], [' '], [], by simp [Text.isBlank], rfl⟩ <|
    .cons ⟨[], [' '], [], [' '], by simp [Text.isBlank], rfl⟩ .nil
  obtain ⟨-, s, hs, hnames, hvalues⟩ :=
    hread texts [("x", 1), ("y", -2), ("x", 3)] (by decide +kernel) hbinds
  refine ⟨⟨s, hs, hnames, hvalues "x", ?_⟩, ?_⟩
  · exact ((hways [] texts rfl hjoin).1 _ hdefault).1 s hs
  · exact ((hways [] _ rfl hwrong).1 _ hdefault).2 (.badName "1y") rfl

end Formulary

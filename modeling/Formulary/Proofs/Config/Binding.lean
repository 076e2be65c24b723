import Formulary.Config
import Formulary.Proofs.Decimal.Reading
import Mathlib.Data.List.Induction

/-!
# What accepted bindings hold

The name of an accepted binding is an identifier, and its value a number that can be written: an
integer of no more digits than are read, or a double. The settings give only scopes whose bindings are
accepted.
-/

namespace Formulary

/-! ## One binding -/

variable {text name : String} {v : Value}

theorem readNumber?_cases (h : readNumber? text = some v) :
    (∃ n, v = .int n ∧ n.natAbs < Nat.pow 10 Decimal.maxIntegerDigits) ∨ ∃ x, v = .float x := by
  unfold readNumber? at h
  split at h
  · rename_i n hn
    cases h
    exact Or.inl ⟨n, rfl, Decimal.natAbs_readInt hn⟩
  · obtain ⟨x, -, rfl⟩ := Option.map_eq_some_iff.mp h
    exact Or.inr ⟨x, rfl⟩

/-- A number that is read can be written. -/
theorem source_of_readNumber? (h : readNumber? text = some v) : ∃ t, v.source = .ok t := by
  rcases readNumber?_cases h with ⟨n, rfl, hn⟩ | ⟨x, rfl⟩
  · refine ⟨toString n, ?_⟩
    rw [Value.source, Value.write, writeInt, if_neg (Nat.not_le_of_lt hn)]
    all_goals exact nofun
  · exact ⟨Decimal.source x, rfl⟩

theorem parseBinding_ok (h : parseBinding text = .ok (name, v)) :
    Text.isIdentifier name.toList = true ∧ Text.trim name = name ∧
      ∃ value, readNumber? value = some v := by
  unfold parseBinding at h
  dsimp only at h
  split at h
  · cases h
  · split at h
    · cases h
    · rename_i hname
      split at h
      · rename_i hv
        obtain ⟨rfl, rfl⟩ := Prod.mk.inj (Except.ok.inj h)
        exact ⟨by simpa using hname, Text.trim_trim _, _, hv⟩
      · cases h

/-! ## Scopes -/

theorem Scope.mem_bind {s : Scope} {b : String × Value} (h : b ∈ s.bind name v) :
    b = (name, v) ∨ b ∈ s := by
  induction s with
  | nil => exact Or.inl (List.mem_singleton.mp h)
  | cons a rest ih =>
    obtain ⟨n, w⟩ := a
    rw [bind] at h
    split at h
    · rename_i hn
      rcases List.mem_cons.mp h with rfl | h
      · exact Or.inl (by rw [hn])
      · exact Or.inr (List.mem_cons_of_mem _ h)
    · rcases List.mem_cons.mp h with rfl | h
      · exact Or.inr List.mem_cons_self
      · exact (ih h).imp_right (List.mem_cons_of_mem _)

theorem Scope.mem_ofList {bindings : List (String × Value)} {b : String × Value}
    (h : b ∈ ofList bindings) : b ∈ bindings := by
  induction bindings using List.reverseRecOn with
  | nil => exact h
  | append_singleton bindings a ih =>
    rw [ofList, List.foldl_append] at h
    rcases mem_bind h with rfl | h
    · exact List.mem_append_right _ List.mem_cons_self
    · exact List.mem_append_left _ (ih h)

/-- Every binding of the scope is an accepted one. -/
def Scope.Parsed (s : Scope) : Prop := ∀ b ∈ s, ∃ text, parseBinding text = .ok b

theorem Scope.Parsed.read {s : Scope} (h : s.Parsed) :
    ∀ b ∈ s, ∃ text name, parseBinding text = .ok (name, b.2) := by
  intro b hb
  obtain ⟨text, htext⟩ := h b hb
  exact ⟨text, b.1, htext⟩

theorem Scope.parsed_default : default.Parsed := by
  intro b hb
  rcases List.mem_cons.mp hb with rfl | hb
  · exact ⟨"x=5", rfl⟩
  · rw [List.mem_singleton.mp hb]
    exact ⟨"y=10", rfl⟩

theorem bind_eq_ok {α β ε : Type} {x : Except ε α} {f : α → Except ε β} {b : β}
    (h : (x >>= f) = .ok b) : ∃ a, x = .ok a ∧ f a = .ok b := by
  cases x with
  | error e => cases h
  | ok a => exact ⟨a, rfl, h⟩

theorem bind_eq_error {α β ε : Type} {x : Except ε α} {f : α → Except ε β} {e : ε}
    (h : (x >>= f) = .error e) : x = .error e ∨ ∃ a, x = .ok a ∧ f a = .error e := by
  cases x with
  | error e' => cases h; exact Or.inl rfl
  | ok a => exact Or.inr ⟨a, rfl, h⟩

theorem exists_bind_ok {α β ε : Type} {x : Except ε α} {f : α → Except ε β}
    (hx : ∃ a, x = .ok a) (hf : ∀ a, ∃ b, f a = .ok b) : ∃ b, (x >>= f) = .ok b := by
  obtain ⟨a, rfl⟩ := hx
  exact hf a

theorem ne_error_of_ok {α ε : Type} {x : Except ε α} {e : ε} (h : ∃ a, x = .ok a) : x ≠ .error e := by
  obtain ⟨a, rfl⟩ := h
  exact nofun

/-- A list is gone through to its end if nothing in it fails, and then nothing in it fails. -/
theorem mapM_ok_iff {α β ε : Type} (f : α → Except ε β) (xs : List α) :
    (∃ ys, xs.mapM f = .ok ys) ↔ ∀ x ∈ xs, ∃ y, f x = .ok y := by
  induction xs with
  | nil => simp [pure, Except.pure]
  | cons x rest ih =>
    rw [List.mapM_cons, List.forall_mem_cons, ← ih]
    cases hx : f x with
    | error e => simp [bind, Except.bind]
    | ok y => cases hrest : rest.mapM f <;> simp [bind, Except.bind, pure, Except.pure]

/-- The bindings of a scope can be listed in order, if each value that can be written gives a line and
all values were read. -/
theorem Scope.listed_ok {s : Scope} (h : ∀ b ∈ s, ∃ text name, parseBinding text = .ok (name, b.2))
    (le : String × Value → String × Value → Bool) {line : String × Value → Except EvalError String}
    (hline : ∀ b, (∃ t, b.2.source = .ok t) → ∃ l, line b = .ok l) :
    ∃ lines, (s.mergeSort le).mapM line = .ok lines := by
  rw [mapM_ok_iff]
  intro b hb
  obtain ⟨text, name, htext⟩ := h b (List.mem_mergeSort.mp hb)
  obtain ⟨-, -, value, hvalue⟩ := parseBinding_ok htext
  exact hline b (source_of_readNumber? hvalue)

theorem mem_mapM_ok {α β ε : Type} {f : α → Except ε β} {xs : List α} {ys : List β}
    (h : xs.mapM f = .ok ys) : ∀ y ∈ ys, ∃ x ∈ xs, f x = .ok y := by
  induction xs generalizing ys with
  | nil =>
    cases h
    exact nofun
  | cons x rest ih =>
    rw [List.mapM_cons] at h
    obtain ⟨z, hx, h⟩ := bind_eq_ok h
    obtain ⟨zs, hrest, h⟩ := bind_eq_ok h
    cases h
    intro y hy
    rcases List.mem_cons.mp hy with rfl | hy
    · exact ⟨x, List.mem_cons_self, hx⟩
    · obtain ⟨w, hw, hwy⟩ := ih hrest y hy
      exact ⟨w, List.mem_cons_of_mem x hw, hwy⟩

theorem mem_mapM_error {α β ε : Type} {f : α → Except ε β} {xs : List α} {e : ε}
    (h : xs.mapM f = .error e) : ∃ x ∈ xs, f x = .error e := by
  induction xs with
  | nil => cases h
  | cons x rest ih =>
    rw [List.mapM_cons] at h
    rcases bind_eq_error h with hx | ⟨y, -, h⟩
    · exact ⟨x, List.mem_cons_self, hx⟩
    · rcases bind_eq_error h with hrest | ⟨ys, -, h⟩
      · obtain ⟨w, hw, hwe⟩ := ih hrest
        exact ⟨w, List.mem_cons_of_mem x hw, hwe⟩
      · cases h

theorem parsed_parseScope {bindings : List String} {s : Scope} (h : parseScope bindings = .ok s) :
    s.Parsed := by
  obtain ⟨bs, hbs, hs⟩ := bind_eq_ok (f := fun bs => .ok (Scope.ofList bs)) h
  cases hs
  intro b hb
  obtain ⟨text, -, htext⟩ := mem_mapM_ok hbs b (Scope.mem_ofList hb)
  exact ⟨text, htext⟩

theorem Config.parsed_readScope {bindings : List String} {s : Scope}
    (h : readScope bindings = .ok s) : s.Parsed := by
  unfold readScope at h
  cases hread : parseScope bindings with
  | error e =>
    rw [hread] at h
    cases h
  | ok t =>
    rw [hread] at h
    cases h
    exact parsed_parseScope hread

theorem Config.parsed_ofEnvironment {env : Environment} {c : Config}
    (h : ofEnvironment env = .ok c) : c.scope.Parsed := by
  unfold ofEnvironment at h
  dsimp only at h
  obtain ⟨timeout, -, h⟩ := bind_eq_ok h
  obtain ⟨cacheSize, -, h⟩ := bind_eq_ok h
  split at h
  · rw [pure_bind] at h
    rw [← Except.ok.inj h]
    exact Scope.parsed_default
  · obtain ⟨scope, hscope, h⟩ := bind_eq_ok h
    rw [← Except.ok.inj h]
    exact parsed_readScope hscope

end Formulary

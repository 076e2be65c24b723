import Formulary.Json.Read
import Formulary.Json.Write
import Formulary.Proofs.Decimal.Reading

/-!
# How deep a text nests

A text is read only if it nests no deeper than there is room for, and then its value can be written in
the same room. A text that opens more arrays than there is room for is given up, whatever follows.
-/

namespace Formulary.Json

variable {fuel room : Nat} {cs rest : List Char} {v : Json}

/-! ## What can be written -/

theorem unwritableItem?_eq_none_iff {items : List Json} :
    unwritableItem? room items = none ↔ ∀ v ∈ items, unwritable? room v = none := by
  induction items with
  | nil => simp [unwritableItem?]
  | cons v rest ih => simp [unwritableItem?, ih]

theorem unwritableField?_eq_none_iff {fields : List (String × Json)} :
    unwritableField? room fields = none ↔ ∀ e ∈ fields, unwritable? room e.2 = none := by
  induction fields with
  | nil => simp [unwritableField?]
  | cons e rest ih => simp [unwritableField?, ih]

/-- More room does not hurt. -/
theorem unwritable?_succ (h : unwritable? room v = none) : unwritable? (room + 1) v = none := by
  induction room generalizing v with
  | zero =>
    cases v with
    | null | bool | float | str => rfl
    | int => exact h
    | arr | obj => cases h
  | succ room ih =>
    cases v with
    | null | bool | float | str => rfl
    | int => exact h
    | arr items =>
      rw [unwritable?, unwritableItem?_eq_none_iff] at h ⊢
      exact fun v hv => ih (h v hv)
    | obj fields =>
      rw [unwritable?, unwritableField?_eq_none_iff] at h ⊢
      exact fun e he => ih (h e he)

theorem unwritable?_of_mem {items : List Json} (h : unwritable? room (.arr items) = none)
    (hv : v ∈ items) : unwritable? room v = none := by
  cases room with
  | zero => cases h
  | succ room =>
    rw [unwritable?, unwritableItem?_eq_none_iff] at h
    exact unwritable?_succ (h v hv)

theorem unwritable?_of_field? {item : Json} {name : String} (h : unwritable? room item = none)
    (hv : item.field? name = some v) : unwritable? room v = none := by
  cases item with
  | obj fields =>
    cases room with
    | zero => cases h
    | succ room =>
      rw [unwritable?, unwritableField?_eq_none_iff] at h
      obtain ⟨before, after, rfl, -⟩ := List.lookup_eq_some_iff.mp hv
      exact unwritable?_succ (h (name, v) (by simp))
  | null | bool | int | float | str | arr => cases hv

/-! ## What is read can be written -/

theorem mem_setField {fields : List (String × Json)} {name : String} {e : String × Json}
    (he : e ∈ setField fields name v) : e ∈ fields ∨ e.2 = v := by
  induction fields with
  | nil =>
    rw [setField, List.mem_singleton] at he
    exact Or.inr (congrArg Prod.snd he)
  | cons f fields ih =>
    rw [setField] at he
    split at he
    · rcases List.mem_cons.mp he with rfl | he
      · exact Or.inr rfl
      · exact Or.inl (List.mem_cons_of_mem f he)
    · rcases List.mem_cons.mp he with rfl | he
      · exact Or.inl List.mem_cons_self
      · exact (ih he).imp (List.mem_cons_of_mem f) id

theorem unwritable?_int {n : Int} (h : n.natAbs < Nat.pow 10 Decimal.maxIntegerDigits) :
    unwritable? room (.int n) = none := by
  rw [unwritable?, if_neg (Nat.not_le_of_lt h)]

theorem unwritable?_float (x : Float) : unwritable? room (.float x) = none := by
  cases room <;> rfl

theorem unwritable?_str (s : String) : unwritable? room (.str s) = none := by
  cases room <;> rfl

theorem isDigit_of_mem_wholeDigits {c : Char} (hc : c ∈ wholeDigits cs) : c.isDigit = true := by
  unfold wholeDigits at hc
  split at hc
  · rw [List.mem_singleton.mp hc]
    decide
  · exact List.mem_takeWhile_imp hc

theorem unwritable?_number {negative : Bool} {whole fraction : List Char} {e : Option Int}
    (hwhole : ∀ c ∈ whole, c.isDigit = true) (h : number? negative whole fraction e = some v) :
    unwritable? room v = none := by
  unfold number? at h
  split at h
  · cases h
    exact unwritable?_float _
  split at h
  · split at h
    · cases h
    · rename_i hlength
      cases h
      have hlt := Decimal.ofDigits_lt hwhole (Nat.not_lt.mp hlength)
      refine unwritable?_int ?_
      split
      · rwa [Int.natAbs_neg]
      · exact hlt
  · cases h
    exact unwritable?_float _

theorem unwritable?_readUnsigned {negative : Bool} (h : readUnsigned negative cs = some (v, rest)) :
    unwritable? room v = none := by
  unfold readUnsigned at h
  dsimp only at h
  split at h
  · cases h
  · obtain ⟨w, hw, heq⟩ := Option.map_eq_some_iff.mp h
    cases heq
    exact unwritable?_number (fun c => isDigit_of_mem_wholeDigits) hw

theorem unwritable?_readNumber (h : readNumber cs = some (v, rest)) : unwritable? room v = none := by
  unfold readNumber at h
  split at h <;> exact unwritable?_readUnsigned h

theorem unwritable?_readWord (h : readWord cs = some (v, rest)) : unwritable? room v = none := by
  unfold readWord at h
  split at h
  · cases h
    cases room <;> rfl
  · cases h
    cases room <;> rfl
  · cases h
    cases room <;> rfl
  · split at h
    · cases h
      exact unwritable?_float _
    · cases h
      exact unwritable?_float _
    · cases h
      exact unwritable?_float _
    · exact unwritable?_readNumber h

/-- What the readers make of a text can be written in the room that there was; the values that are
read already have to. -/
structure Writes (fuel : Nat) : Prop where
  value : ∀ {room cs v rest}, readValue fuel room cs = .ok (v, rest) → unwritable? room v = none
  items : ∀ {room acc cs v rest}, readItems fuel room acc cs = .ok (v, rest) →
    (∀ w ∈ acc, unwritable? room w = none) → unwritable? (room + 1) v = none
  fields : ∀ {room acc cs v rest}, readFields fuel room acc cs = .ok (v, rest) →
    (∀ e ∈ acc, unwritable? room e.2 = none) → unwritable? (room + 1) v = none

theorem Writes.readValue (ih : Writes fuel) (h : readValue (fuel + 1) room cs = .ok (v, rest)) :
    unwritable? room v = none := by
  unfold Json.readValue at h
  split at h
  · split at h
    · cases h
      exact unwritable?_str _
    · cases h
  · split at h
    · cases h
    · split at h
      · cases h
        rfl
      · exact ih.items h nofun
  · split at h
    · cases h
    · split at h
      · cases h
        rfl
      · exact ih.fields h nofun
  · split at h
    · rename_i hword
      cases h
      exact unwritable?_readWord hword
    · cases h

theorem Writes.readItems (ih : Writes fuel) {acc : List Json}
    (h : readItems (fuel + 1) room acc cs = .ok (v, rest))
    (hacc : ∀ w ∈ acc, unwritable? room w = none) : unwritable? (room + 1) v = none := by
  unfold Json.readItems at h
  cases hread : Json.readValue fuel room cs with
  | error e =>
    rw [hread] at h
    cases h
  | ok read =>
    obtain ⟨w, more⟩ := read
    have hmore : ∀ x ∈ w :: acc, unwritable? room x = none :=
      List.forall_mem_cons.mpr ⟨ih.value hread, hacc⟩
    rw [hread] at h
    dsimp only [bind, Except.bind] at h
    split at h
    · exact ih.items h hmore
    · cases h
      rw [unwritable?, unwritableItem?_eq_none_iff]
      exact fun x hx => hmore x (List.mem_reverse.mp hx)
    · cases h

theorem Writes.readFields (ih : Writes fuel) {acc : List (String × Json)}
    (h : readFields (fuel + 1) room acc cs = .ok (v, rest))
    (hacc : ∀ e ∈ acc, unwritable? room e.2 = none) : unwritable? (room + 1) v = none := by
  unfold Json.readFields at h
  split at h
  · split at h
    · cases h
    rename_i name r _
    split at h
    · rename_i r _
      cases hread : Json.readValue fuel room r with
      | error e =>
        rw [hread] at h
        cases h
      | ok read =>
        obtain ⟨w, more⟩ := read
        have hmore : ∀ e ∈ setField acc name w, unwritable? room e.2 = none := by
          intro e he
          rcases mem_setField he with he | heq
          · exact hacc e he
          · exact heq ▸ ih.value hread
        rw [hread] at h
        dsimp only [bind, Except.bind] at h
        split at h
        · exact ih.fields h hmore
        · cases h
          rw [unwritable?, unwritableField?_eq_none_iff]
          exact hmore
        · cases h
    · cases h
  · cases h

theorem writes (fuel : Nat) : Writes fuel := by
  induction fuel with
  | zero => exact ⟨nofun, nofun, nofun⟩
  | succ fuel ih => exact ⟨ih.readValue, ih.readItems, ih.readFields⟩

/-- Every value that is read can be written. -/
theorem unwritable?_of_read {s : String} (h : read s = .ok v) :
    unwritable? maxNesting v = none := by
  unfold read at h
  dsimp only at h
  cases hread : readValue (2 * s.toList.length + 2) maxNesting s.toList with
  | error e =>
    rw [hread] at h
    cases h
  | ok r =>
    obtain ⟨w, rest⟩ := r
    rw [hread] at h
    dsimp only [bind, Except.bind] at h
    split at h
    · cases h
      exact (writes _).value hread
    · cases h

/-! ## What nests too deep -/

theorem skipSpace_bracket (cs : List Char) : skipSpace ('[' :: cs) = '[' :: cs := rfl

/-- An array that opens where no room is left is given up, and with it all that are open around it. -/
theorem readValue_brackets (room : Nat) (rest : List Char) (extra : Nat) :
    readValue (2 * room + 1 + extra) room (List.replicate (room + 1) '[' ++ rest) =
      .error (.tooDeep "array") := by
  induction room with
  | zero =>
    rw [show 2 * 0 + 1 + extra = extra + 1 by omega]
    rfl
  | succ room ih =>
    have hinner : readItems (2 * room + 1 + extra + 1) room [] (List.replicate (room + 1) '[' ++ rest) =
        .error (.tooDeep "array") := by
      rw [readItems, ih]
      rfl
    rw [show 2 * (room + 1) + 1 + extra = 2 * room + 1 + extra + 1 + 1 by omega, readValue,
      List.replicate_succ, List.cons_append, skipSpace_bracket]
    exact hinner

/-- A text that opens more arrays than there is room for is too deep, well formed or not. -/
theorem read_brackets (rest : List Char) :
    read (String.ofList (List.replicate (maxNesting + 1) '[' ++ rest)) =
      .error (.tooDeep "array") := by
  have hfuel : 2 * (List.replicate (maxNesting + 1) '[' ++ rest).length + 2 =
      2 * maxNesting + 1 + (2 * rest.length + 3) := by
    rw [List.length_append, List.length_replicate]
    omega
  rw [read, String.toList_ofList, hfuel, readValue_brackets]
  rfl

end Formulary.Json

import Formulary.Proofs.Config.Binding

/-!
# Values that can be displayed

Every value has a text, except for tuples in which an integer is too long to be written.
-/

namespace Formulary

theorem writeInt_eq_ok_iff {n : Int} :
    (∃ s, writeInt n = .ok s) ↔ n.natAbs < Nat.pow 10 Decimal.maxIntegerDigits := by
  rw [writeInt]
  split
  · rename_i hlong
    exact ⟨by rintro ⟨s, ⟨⟩⟩, fun hshort => absurd hlong (Nat.not_le.mpr hshort)⟩
  · rename_i hshort
    exact ⟨fun _ => Nat.not_le.mp hshort, fun _ => ⟨_, rfl⟩⟩

theorem eq_tooManyDigits_of_writeInt {n : Int} {e : EvalError} (h : writeInt n = .error e) :
    e = .tooManyDigits := by
  rw [writeInt] at h
  split at h
  · exact (Except.error.inj h).symm
  · cases h

namespace Value

/-- All integers in the value are short enough to be written, if it is a tuple. -/
def Displayable : Value → Prop
  | .tuple items => ∀ n ∈ items, n.natAbs < Nat.pow 10 Decimal.maxIntegerDigits
  | _ => True

variable {v : Value}

theorem display?_tuple (items : List Int) : (Value.tuple items).display? = writeTuple items := rfl

theorem display?_eq_ok_iff : (∃ s, v.display? = .ok s) ↔ v.Displayable := by
  cases v with
  | tuple items =>
    rw [display?_tuple, Displayable, writeTuple]
    have hitems : (∃ texts, items.mapM writeInt = .ok texts) ↔
        ∀ n ∈ items, n.natAbs < Nat.pow 10 Decimal.maxIntegerDigits := by
      rw [mapM_ok_iff]
      exact forall₂_congr fun n _ => writeInt_eq_ok_iff
    rw [← hitems]
    constructor
    · rintro ⟨s, hs⟩
      obtain ⟨texts, htexts, -⟩ := bind_eq_ok hs
      exact ⟨texts, htexts⟩
    · exact fun htexts => exists_bind_ok htexts fun _ => ⟨_, rfl⟩
  | machine m => cases m <;> exact iff_of_true ⟨_, rfl⟩ trivial
  | int | bool | float | complex | text | none | ellipsis | function | method =>
    exact iff_of_true ⟨_, rfl⟩ trivial

theorem display?_of_not_displayable (h : ¬ v.Displayable) : v.display? = .error .tooManyDigits := by
  cases hdisplay : v.display? with
  | ok s => exact absurd (display?_eq_ok_iff.mp ⟨s, hdisplay⟩) h
  | error e =>
    cases v with
    | tuple items =>
      rw [display?_tuple, writeTuple] at hdisplay
      rcases bind_eq_error hdisplay with hitems | ⟨texts, -, htexts⟩
      · obtain ⟨n, -, hn⟩ := mem_mapM_error hitems
        rw [eq_tooManyDigits_of_writeInt hn]
      · cases htexts
    | int | bool | float | complex | machine | text | none | ellipsis | function | method =>
      exact absurd trivial h

end Value

end Formulary

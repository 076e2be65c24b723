import Formulary.Value.Basic

/-!
Scopes bind names to values. A scope is a list of bindings in the order of their first mention; a
name bound again keeps its place and takes the new value.
-/

namespace Formulary

abbrev Scope := List (String × Value)

namespace Scope

/-- Binds a name, in its place if it has one. -/
def bind (s : Scope) (name : String) (v : Value) : Scope :=
  match s with
  | [] => [(name, v)]
  | (n, w) :: rest => if n = name then (n, v) :: rest else (n, w) :: bind rest name v

/-- The scope of a list of bindings, later ones before earlier ones. -/
def ofList (bindings : List (String × Value)) : Scope :=
  bindings.foldl (fun s (name, v) => s.bind name v) []

/-- The example bindings that are used when no scope is given. -/
def default : Scope := [("x", .int 5), ("y", .int 10)]

def get? (s : Scope) (name : String) : Option Value := s.lookup name

theorem get?_bind_same (s : Scope) (name : String) (v : Value) :
    (s.bind name v).get? name = some v := by
  induction s with
  | nil => simp [bind, get?]
  | cons b rest ih =>
    obtain ⟨n, w⟩ := b
    by_cases h : n = name
    · simp [bind, get?, h]
    · have hne : (name == n) = false := beq_eq_false_iff_ne.2 fun e => h e.symm
      simpa [bind, get?, List.lookup_cons, h, hne] using ih

theorem get?_bind_other (s : Scope) {name other : String} (h : other ≠ name) (v : Value) :
    (s.bind name v).get? other = s.get? other := by
  have hne : (other == name) = false := beq_eq_false_iff_ne.2 h
  induction s with
  | nil => simp [bind, get?, List.lookup_cons, hne]
  | cons b rest ih =>
    obtain ⟨n, w⟩ := b
    by_cases hn : n = name
    · simp [bind, get?, List.lookup_cons, hn, hne]
    · simp only [get?] at ih
      simp [bind, get?, List.lookup_cons, hn, ih]

end Scope

end Formulary

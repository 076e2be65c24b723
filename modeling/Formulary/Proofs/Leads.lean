import Mathlib.Data.List.Basic

/-!
# Runs of moves of some kind

A state leads to another if moves of some kind take it there, whatever they are one by one. That goes
on over turns of any kind that each come to such moves, and it is carried along by a map between two
kinds of states that takes each move to a move.
-/

namespace Formulary

variable {σ τ μ ν α : Type} {step : σ → μ → σ} {step' : τ → ν → τ} {allowed : μ → Prop}
  {allowed' : ν → Prop} {a b c : σ}

/-- Allowed moves take a state to another. -/
def LeadsBy (step : σ → μ → σ) (allowed : μ → Prop) (a b : σ) : Prop :=
  ∃ moves : List μ, (∀ m ∈ moves, allowed m) ∧ b = moves.foldl step a

namespace LeadsBy

theorem refl (a : σ) : LeadsBy step allowed a a := ⟨[], nofun, rfl⟩

theorem trans (hab : LeadsBy step allowed a b) (hbc : LeadsBy step allowed b c) :
    LeadsBy step allowed a c := by
  obtain ⟨moves, hmoves, rfl⟩ := hab
  obtain ⟨more, hmore, rfl⟩ := hbc
  exact ⟨moves ++ more, List.forall_mem_append.mpr ⟨hmoves, hmore⟩, List.foldl_append.symm⟩

theorem move (a : σ) (m : μ) (h : allowed m) : LeadsBy step allowed a (step a m) :=
  ⟨[m], by simpa using h, rfl⟩

theorem foldl {turn : σ → α → σ} (h : ∀ a x, LeadsBy step allowed a (turn a x)) (xs : List α)
    (a : σ) : LeadsBy step allowed a (xs.foldl turn a) := by
  induction xs generalizing a with
  | nil => exact .refl a
  | cons x rest ih => exact (h a x).trans (ih _)

theorem map {f : σ → τ} {g : μ → ν} (hstep : ∀ a m, f (step a m) = step' (f a) (g m))
    (hallowed : ∀ m, allowed m → allowed' (g m)) (h : LeadsBy step allowed a b) :
    LeadsBy step' allowed' (f a) (f b) := by
  obtain ⟨moves, hmoves, rfl⟩ := h
  refine ⟨moves.map g, List.forall_mem_map.mpr fun m hm => hallowed m (hmoves m hm), ?_⟩
  rw [List.foldl_map]
  exact (List.foldl_hom f fun a m => (hstep a m).symm).symm

end LeadsBy

end Formulary

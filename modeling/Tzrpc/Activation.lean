import Mathlib.Data.List.Basic
import Mathlib.Tactic.Common

/-!
# Families of routines that call each other

A routine of a family returns, calls another routine as the last thing it does, or is tried
again. `Unwinds` is a chain of calls in which nothing is tried again; two measures give one
from every state, with a bound on the calls of a chosen routine.
-/
namespace Tzrpc

inductive Activation (ρ σ : Type*)
  | returns (s : σ)
  | enters (r : ρ) (s : σ)
  | retries (r : ρ) (s : σ)

namespace Activation

variable {ρ σ : Type*} (act : ρ → σ → Activation ρ σ)

/-- The routine called on a state, with fuel for the depth of the calls. -/
def runs : ℕ → ρ → σ → Option σ
  | 0, _, _ => none
  | fuel + 1, r, s =>
    match act r s with
    | .returns t => some t
    | .enters r' s' => runs fuel r' s'
    | .retries r' s' => runs fuel r' s'

/-- The routines called one by the other, up to the one that returns. -/
inductive Unwinds : List ρ → ρ → σ → σ → Prop
  | returns {r s t} (h : act r s = .returns t) : Unwinds [r] r s t
  | enters {rs r s r' s' t} (h : act r s = .enters r' s') (rest : Unwinds rs r' s' t) :
      Unwinds (r :: rs) r s t

variable {act}

lemma Unwinds.runs {rs : List ρ} {r : ρ} {s t : σ} (h : Unwinds act rs r s t) {fuel : ℕ}
    (hf : rs.length ≤ fuel) : runs act fuel r s = some t := by
  induction h generalizing fuel with
  | @returns r s t ha =>
    obtain ⟨fuel, rfl⟩ : ∃ k, fuel = k + 1 := ⟨fuel - 1, by simp at hf; omega⟩
    simp only [Activation.runs, ha]
  | @enters rs r s r' s' t ha _ ih =>
    obtain ⟨fuel, rfl⟩ : ∃ k, fuel = k + 1 := ⟨fuel - 1, by simp at hf; omega⟩
    simp only [Activation.runs, ha]
    exact ih (by simpa using hf)

lemma unwinds_of_runs (noRetry : ∀ r s r' s', act r s ≠ .retries r' s') {fuel : ℕ} {r : ρ}
    {s t : σ} (h : runs act fuel r s = some t) : ∃ rs, Unwinds act rs r s t := by
  induction fuel generalizing r s with
  | zero => cases h
  | succ fuel ih =>
    simp only [runs] at h
    cases ha : act r s with
    | returns u =>
      rw [ha] at h
      obtain rfl := Option.some.inj h
      exact ⟨[r], .returns ha⟩
    | enters r' s' =>
      rw [ha] at h
      obtain ⟨rs, hrs⟩ := ih h
      exact ⟨r :: rs, .enters ha hrs⟩
    | retries r' s' => exact absurd ha (noRetry r s r' s')

lemma Unwinds.last {I : ρ → σ → Prop} {rs : List ρ} {r : ρ} {s t : σ}
    (h : Unwinds act rs r s t) (hs : I r s)
    (step : ∀ r s r' s', I r s → act r s = .enters r' s' → I r' s') :
    ∃ r' s', I r' s' ∧ act r' s' = .returns t := by
  induction h with
  | @returns r s t ha => exact ⟨r, s, hs, ha⟩
  | @enters rs r s r' s' t ha _ ih => exact ih (step r s r' s' hs ha)

/-- With one measure that falls at every call the chain ends; a second one, which pays for
the calls of the routine `r₀`, bounds their number. -/
theorem exists_unwinds [DecidableEq ρ] (r₀ : ρ) (total budget : ρ → σ → ℕ)
    (noRetry : ∀ r s r' s', act r s ≠ .retries r' s')
    (total_lt : ∀ r s r' s', act r s = .enters r' s' → total r' s' < total r s)
    (budget_le : ∀ r s r' s', act r s = .enters r' s' →
      (if r = r₀ then 1 else 0) + budget r' s' ≤ budget r s)
    (budget_pos : ∀ r s, 1 ≤ budget r s) (r : ρ) (s : σ) :
    ∃ rs t, Unwinds act rs r s t ∧ rs.count r₀ ≤ budget r s := by
  induction hn : total r s using Nat.strongRecOn generalizing r s with
  | ind n ih =>
    subst hn
    cases ha : act r s with
    | returns t =>
      refine ⟨[r], t, .returns ha, ?_⟩
      exact Nat.le_trans List.count_le_length (budget_pos r s)
    | retries r' s' => exact absurd ha (noRetry r s r' s')
    | enters r' s' =>
      obtain ⟨rs, t, hrest, hcount⟩ := ih _ (total_lt r s r' s' ha) r' s' rfl
      refine ⟨r :: rs, t, .enters ha hrest, ?_⟩
      have hpay := budget_le r s r' s' ha
      simp only [List.count_cons, beq_iff_eq]
      omega

end Activation

end Tzrpc

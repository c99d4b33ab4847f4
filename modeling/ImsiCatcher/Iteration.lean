import Mathlib.Logic.Function.Iterate

/-!
# Iterations that come to rest

A program that takes its steps by itself is iterated from a state. `RestsIn` says that the
iteration arrives at a state that the step leaves as it is, and within how many rounds; the
state at rest is then the state after any larger number of rounds.
-/

universe u

namespace Iteration
variable {α : Type u} {f : α → α}

/-- From `s`, at most `k` rounds lead to `r`, which a round leaves as it is. -/
def RestsIn (f : α → α) (k : ℕ) (s r : α) : Prop := f r = r ∧ ∃ j ≤ k, f^[j] s = r

theorem RestsIn.iterate_eq {k n : ℕ} {s r : α} (h : RestsIn f k s r) (hn : k ≤ n) :
    f^[n] s = r := by
  obtain ⟨hfix, j, hj, hrun⟩ := h
  obtain ⟨m, rfl⟩ : ∃ m, n = m + j := ⟨n - j, by omega⟩
  rw [Function.iterate_add_apply, hrun]
  exact Function.iterate_fixed hfix m

theorem RestsIn.of_fixed {r : α} (h : f r = r) : RestsIn f 0 r r := ⟨h, 0, Nat.le_refl 0, rfl⟩

/-- Rounds that lead to a state from which the iteration comes to rest are counted in. -/
theorem RestsIn.of_iterate {n k : ℕ} {s t r : α} (hrun : f^[n] s = t) (h : RestsIn f k t r) :
    RestsIn f (n + k) s r := by
  obtain ⟨hfix, j, hj, hrest⟩ := h
  refine ⟨hfix, j + n, by omega, ?_⟩
  rw [Function.iterate_add_apply, hrun, hrest]

theorem RestsIn.mono {k k' : ℕ} {s r : α} (hk : k ≤ k') (h : RestsIn f k s r) :
    RestsIn f k' s r := by
  obtain ⟨hfix, j, hj, hrun⟩ := h
  exact ⟨hfix, j, by omega, hrun⟩

end Iteration

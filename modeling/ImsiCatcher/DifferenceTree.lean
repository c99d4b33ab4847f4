import Mathlib.Algebra.Group.Nat.Defs
import Mathlib.Data.Int.Notation
import Mathlib.Data.Nat.Log
import Mathlib.Data.Set.Defs
import Mathlib.Tactic.Common

/-!
# Numbers packed as a tree of differences

A set of numbers below a range, a power of two, is sent as a list of fields. The fields are
the nodes of a binary tree that is numbered level by level; a node holds the difference of
its number to that of its parent, in a range that halves with every level. The number of a
node is found by climbing to the root and adding up on the way. A field that is zero sends
no number.
-/

namespace DifferenceTree

/-- The residue of `n` in `1..m`. -/
def residue (n m : ℤ) : ℤ := (n - 1) % m + 1

/-- From node `k` of a level to the root, with the number `n` that was added up so far. With
`j` the first node of the level, the nodes below `3j/2` are left children. -/
def climb (range : ℕ) (w : ℕ → ℤ) : ℕ → ℕ → ℤ → ℤ
  | 0, _, n => n
  | level + 1, k, n =>
    let j := 2 ^ (level + 1)
    if 2 * k < 3 * j then
      climb range w level (k - j / 2)
        (residue (w (k - j / 2) - (range / j : ℕ) + n) (2 * range / j - 1 : ℕ))
    else
      climb range w level (k - j) (residue (w (k - j) + n) (2 * range / j - 1 : ℕ))

/-- The number that node `k` sends. -/
def value (range : ℕ) (w : ℕ → ℤ) (k : ℕ) : ℤ := climb range w k.log2 k (w k)

def numbers (range count : ℕ) (w : ℕ → ℤ) : Set ℤ :=
  { f | ∃ k, 1 ≤ k ∧ k ≤ count ∧ w k ≠ 0 ∧ f = value range w k }

theorem residue_pos (n : ℤ) {m : ℤ} (hm : 0 < m) : 0 < residue n m := by
  have h := Int.emod_nonneg (n - 1) (by omega : m ≠ 0)
  unfold residue
  omega

/-- The remainder that C computes, moved up by the modulus where it is not positive. -/
theorem residue_eq_tmod (n : ℤ) {m : ℤ} (hm : 0 < m) :
    residue n m = if n.tmod m ≤ 0 then n.tmod m + m else n.tmod m := by
  have hlow := Int.lt_tmod_of_pos n hm
  have hhigh := Int.tmod_lt_of_pos n hm
  have hdecomp := Int.tmod_add_mul_tdiv n m
  unfold residue
  split_ifs with hsign
  · have hsplit : n - 1 = n.tmod m + m - 1 + m * (n.tdiv m - 1) := by
      rw [Int.mul_sub]
      omega
    rw [hsplit, Int.add_mul_emod_self_left, Int.emod_eq_of_lt (by omega) (by omega)]
    omega
  · have hsplit : n - 1 = n.tmod m - 1 + m * n.tdiv m := by omega
    rw [hsplit, Int.add_mul_emod_self_left, Int.emod_eq_of_lt (by omega) (by omega)]
    omega

theorem climb_pos {range : ℕ} (hrange : 2 ≤ range) (w : ℕ → ℤ) (level k : ℕ) (n : ℤ) :
    0 < climb range w (level + 1) k n := by
  induction level generalizing k n with
  | zero =>
    have hm : (0 : ℤ) < (2 * range / 2 ^ 1 - 1 : ℕ) := by omega
    rw [climb]
    split
    · exact residue_pos _ hm
    · exact residue_pos _ hm
  | succ level ih =>
    rw [climb]
    split
    · exact ih _ _
    · exact ih _ _

theorem value_nonneg {range : ℕ} (hrange : 2 ≤ range) {w : ℕ → ℤ} (hw : ∀ k, 0 ≤ w k) (k : ℕ) :
    0 ≤ value range w k := by
  unfold value
  cases k.log2 with
  | zero => exact hw k
  | succ level => exact (climb_pos hrange w level k (w k)).le

end DifferenceTree

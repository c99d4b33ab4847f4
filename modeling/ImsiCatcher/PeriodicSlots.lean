import Mathlib.Data.Nat.Count

/-!
# Slots that come again every period

A condition on the naturals with a period holds as often in every period as in the first one. So
the slots below a number are counted by whole periods and the slots of the first period below the
rest.
-/

namespace PeriodicSlots
variable {p : ℕ → Prop} [DecidablePred p] {n : ℕ}

/-- From one period to the next. -/
def Periodic (p : ℕ → Prop) (n : ℕ) : Prop := ∀ k, p (n + k) ↔ p k

theorem Periodic.mul_add {p : ℕ → Prop} (h : Periodic p n) (q k : ℕ) : p (n * q + k) ↔ p k := by
  induction q with
  | zero => rw [Nat.mul_zero, Nat.zero_add]
  | succ q ih =>
    have hsucc : n * (q + 1) + k = n + (n * q + k) := by
      rw [Nat.mul_succ, Nat.add_assoc, Nat.add_left_comm]
    rw [hsucc, h, ih]

theorem Periodic.count_mul_add (h : Periodic p n) (q r : ℕ) :
    Nat.count p (n * q + r) = Nat.count p n * q + Nat.count p r := by
  induction q with
  | zero => rw [Nat.mul_zero, Nat.mul_zero, Nat.zero_add, Nat.zero_add]
  | succ q ih =>
    have hsucc : n * (q + 1) + r = n + (n * q + r) := by
      rw [Nat.mul_succ, Nat.add_assoc, Nat.add_left_comm]
    have hshift : Nat.count (fun k => p (n + k)) (n * q + r) = Nat.count p (n * q + r) := by
      congr 1
      funext k
      exact propext (h k)
    rw [hsucc, Nat.count_add, hshift, ih, Nat.mul_succ]
    omega

end PeriodicSlots

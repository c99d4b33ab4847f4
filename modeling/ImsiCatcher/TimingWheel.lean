import Mathlib.Data.Nat.ModEq
import Mathlib.Tactic.Common

/-!
# A ring of slots as a calendar

A ring of `n` slots holds what is due at the next `n` times, one slot a time; the slot at the hand
is that of the next time. A calendar has an entry for every time. What is put some places ahead of
the hand is due as many times later, as far as the ring reaches, and a place further ahead is
that of an earlier time. When the hand moves on, the slot that it leaves becomes that of the time
that comes into reach.
-/

universe u

namespace TimingWheel
variable {β : Type u} {n hand next : ℕ} {slot cal : ℕ → β} {vacant b : β}

/-- From the place `hand` on, the slots show what the calendar has from the time `next` on. The
calendar has nothing at the times that the ring does not reach. -/
structure Shows (n : ℕ) (vacant : β) (slot : ℕ → β) (hand : ℕ) (cal : ℕ → β) (next : ℕ) :
    Prop where
  slot_eq : ∀ j < n, slot ((hand + j) % n) = cal (next + j)
  eq_vacant : ∀ j, n ≤ j → cal (next + j) = vacant

theorem place_inj {i j : ℕ} (hi : i < n) (hj : j < n) :
    (hand + i) % n = (hand + j) % n ↔ i = j := by
  constructor
  · intro h
    have hmod : i ≡ j [MOD n] := Nat.ModEq.add_left_cancel' hand h
    exact hmod.eq_of_lt_of_lt hi hj
  · rintro rfl
    rfl

namespace Shows

/-- The slot some places ahead is that of the time as many times later, within the ring. -/
theorem slot_ahead (h : Shows n vacant slot hand cal next) (hn : 0 < n) (k : ℕ) :
    slot ((hand + k) % n) = cal (next + k % n) := by
  rw [← h.slot_eq (k % n) (Nat.mod_lt k hn), Nat.add_mod_mod]

/-- The slot some places ahead is written. -/
theorem put (h : Shows n vacant slot hand cal next) (hn : 0 < n) (k : ℕ) (b : β) :
    Shows n vacant (fun i => if i = (hand + k) % n then b else slot i) hand
      (fun t => if t = next + k % n then b else cal t) next where
  slot_eq := by
    intro j hj
    have hplace : (hand + j) % n = (hand + k) % n ↔ next + j = next + k % n := by
      rw [← Nat.add_mod_mod hand k n, place_inj hj (Nat.mod_lt k hn)]
      omega
    simp only [hplace, h.slot_eq j hj]
  eq_vacant := by
    intro j hj
    have hne : next + j ≠ next + k % n := by
      have hlt := Nat.mod_lt k hn
      omega
    simp only [if_neg hne, h.eq_vacant j hj]

/-- All slots but the one some places ahead are vacated. -/
theorem vacate (h : Shows n vacant slot hand cal next) (hn : 0 < n) (k : ℕ) :
    Shows n vacant (fun i => if i = (hand + k) % n then slot i else vacant) hand
      (fun t => if t = next + k % n then cal t else vacant) next where
  slot_eq := by
    intro j hj
    have hplace : (hand + j) % n = (hand + k) % n ↔ next + j = next + k % n := by
      rw [← Nat.add_mod_mod hand k n, place_inj hj (Nat.mod_lt k hn)]
      omega
    simp only [hplace, h.slot_eq j hj]
  eq_vacant := by
    intro j hj
    simp only [h.eq_vacant j hj, ite_self]

/-- Only the times to come matter. -/
theorem congr (h : Shows n vacant slot hand cal next) {cal' : ℕ → β}
    (hcal : ∀ t, next ≤ t → cal' t = cal t) : Shows n vacant slot hand cal' next where
  slot_eq := fun j hj => (h.slot_eq j hj).trans (hcal _ (Nat.le_add_right next j)).symm
  eq_vacant := fun j hj => (hcal _ (Nat.le_add_right next j)).trans (h.eq_vacant j hj)

/-- Only the place of the hand within the ring matters. -/
theorem wrap (h : Shows n vacant slot hand cal next) : Shows n vacant slot (hand % n) cal next where
  slot_eq := by
    intro j hj
    rw [Nat.mod_add_mod]
    exact h.slot_eq j hj
  eq_vacant := h.eq_vacant

/-- The hand moves on: what the slot that it leaves holds is due one round later. -/
theorem turn (h : Shows n vacant slot hand cal next) (hn : 0 < n) :
    Shows n vacant slot (hand + 1) (fun t => if t = next + n then cal next else cal t)
      (next + 1) where
  slot_eq := by
    intro j hj
    rcases Nat.lt_or_ge (j + 1) n with hlt | hge
    · have hne : next + (j + 1) ≠ next + n := by omega
      have hplace : hand + 1 + j = hand + (j + 1) := by omega
      have htime : next + 1 + j = next + (j + 1) := by omega
      simp only [hplace, htime, if_neg hne]
      exact h.slot_eq (j + 1) hlt
    · have hround : next + 1 + j = next + n := by omega
      have hplace : (hand + 1 + j) % n = (hand + 0) % n := by
        have hhand : hand + 1 + j = hand + n := by omega
        rw [hhand, Nat.add_mod_right, Nat.add_zero]
      simp only [if_pos hround, hplace]
      exact h.slot_eq 0 hn
  eq_vacant := by
    intro j hj
    have hne : next + (j + 1) ≠ next + n := by omega
    have htime : next + 1 + j = next + (j + 1) := by omega
    simp only [htime, if_neg hne]
    exact h.eq_vacant (j + 1) (by omega)

end Shows

end TimingWheel

import ImsiCatcher.GsmTime
import ImsiCatcher.PeriodicSlots
import Mathlib.Data.Nat.Nth

/-!
# When a RACH burst is sent

A RACH request names a number of RACH slots to wait. On a combined CCCH only 27 frames of the
51-multiframe are RACH slots, and two tables lead from the frame of the request to the frame of
the burst; elsewhere every frame is one.
-/

namespace ImsiCatcher

def t3ToRachComb : List ℕ :=
  [0, 0, 0, 0,
   0, 1,
   2, 2, 2, 2, 2, 2, 2, 2,
   2, 3, 4, 5, 6, 7, 8, 9, 10, 11, 12,
   13, 14, 15, 16, 17, 18, 19, 20, 21, 22, 23, 24,
   25, 25, 25, 25, 25, 25, 25, 25,
   25, 26,
   27, 27, 27, 27]

def rachToT3Comb : List ℕ :=
  [4, 5,
   14, 15, 16, 17, 18, 19, 20, 21, 22, 23, 24,
   25, 26, 27, 28, 29, 30, 31, 32, 33, 34, 35, 36,
   45, 46]

/-- The frame that `l1a_rach_req` schedules the burst for. The offset has 16 bits. -/
def l1aRachFrame (time : GsmTime) (offset : UInt16) (combined : Bool) : ℕ :=
  let offset := offset + 3
  if combined then
    let offset := offset + UInt16.ofNat (t3ToRachComb.getD time.t3 0)
    time.fn - time.t3 + offset.toNat / 27 * 51 + rachToT3Comb.getD (offset.toNat % 27) 0
  else time.fn + offset.toNat

def RachSlot (fn : ℕ) : Prop := fn % 51 ∈ rachToT3Comb

instance : DecidablePred RachSlot := fun fn => inferInstanceAs (Decidable (fn % 51 ∈ rachToT3Comb))

theorem rachSlot_periodic : PeriodicSlots.Periodic RachSlot 51 := by
  intro k
  rw [RachSlot, RachSlot, Nat.add_mod_left]

theorem count_rachSlot : Nat.count RachSlot 51 = 27 := by decide

/-- `t3_to_rach_comb` counts the slots of the multiframe so far. -/
theorem t3ToRachComb_eq {t3 : ℕ} (h : t3 < 51) :
    t3ToRachComb.getD t3 0 = Nat.count RachSlot t3 := by
  have hall : ∀ t : Fin 51, t3ToRachComb.getD t 0 = Nat.count RachSlot t := by decide
  exact hall ⟨t3, h⟩

/-- `rach_to_t3_comb` finds a slot of the multiframe by its number. -/
theorem rachToT3Comb_slot {i : ℕ} (h : i < 27) :
    RachSlot (rachToT3Comb.getD i 0) ∧ Nat.count RachSlot (rachToT3Comb.getD i 0) = i := by
  have hall : ∀ j : Fin 27, RachSlot (rachToT3Comb.getD j 0) ∧
      Nat.count RachSlot (rachToT3Comb.getD j 0) = j := by decide
  exact hall ⟨i, h⟩

section Request
variable {time : GsmTime} {offset : UInt16}

/-- The offset leaves room in its 16 bits for the three slots more, and for those of one multiframe
that have passed already. -/
theorem toNat_add_three (hoffset : offset.toNat + 30 < 65536) :
    (offset + 3).toNat = offset.toNat + 3 := by
  rw [UInt16.toNat_add]
  change (offset.toNat + 3) % 65536 = _
  omega

/-- On a combined CCCH the frame of the burst is a RACH slot, with just as many of them in front of
it as there were at the request and as it asks for, and three more. -/
theorem l1aRachFrame_combined (h : time.Split) (hoffset : offset.toNat + 30 < 65536) :
    RachSlot (l1aRachFrame time offset true) ∧
      Nat.count RachSlot (l1aRachFrame time offset true) =
        Nat.count RachSlot time.fn + (offset.toNat + 3) := by
  obtain ⟨-, hsplit⟩ := h
  have ht3 : time.t3 = time.fn % 51 := congrArg GsmTime.t3 hsplit
  have hlt : time.t3 < 51 := ht3 ▸ Nat.mod_lt _ (by decide)
  have hfn : time.fn = 51 * (time.fn / 51) + time.t3 := ht3 ▸ (Nat.div_add_mod _ _).symm
  have hcount : Nat.count RachSlot time.fn =
      27 * (time.fn / 51) + Nat.count RachSlot time.t3 := by
    conv_lhs => rw [hfn]
    rw [rachSlot_periodic.count_mul_add, count_rachSlot]
  have helapsed : Nat.count RachSlot time.t3 ≤ 27 :=
    (Nat.count_monotone RachSlot hlt.le).trans_eq count_rachSlot
  -- the slots from the beginning of the multiframe on
  have hslots : (offset + 3 + UInt16.ofNat (t3ToRachComb.getD time.t3 0)).toNat =
      offset.toNat + 3 + Nat.count RachSlot time.t3 := by
    rw [t3ToRachComb_eq hlt, UInt16.toNat_add, toNat_add_three hoffset, UInt16.toNat_ofNat']
    omega
  generalize hall : offset.toNat + 3 + Nat.count RachSlot time.t3 = slots at hslots
  obtain ⟨hslot, hnumber⟩ := rachToT3Comb_slot (Nat.mod_lt slots (by decide : 0 < 27))
  have hframe : l1aRachFrame time offset true =
      51 * (time.fn / 51 + slots / 27) + rachToT3Comb.getD (slots % 27) 0 := by
    simp only [l1aRachFrame, if_pos, hslots]
    omega
  rw [hframe, rachSlot_periodic.mul_add, rachSlot_periodic.count_mul_add, count_rachSlot, hnumber]
  exact ⟨hslot, by omega⟩

/-- A burst is sent three frames ahead at the earliest. -/
theorem le_l1aRachFrame (h : time.Split) (hoffset : offset.toNat + 30 < 65536)
    (combined : Bool) : time.fn + 3 ≤ l1aRachFrame time offset combined := by
  cases combined with
  | false =>
    simp only [l1aRachFrame, Bool.false_eq_true, if_false, toNat_add_three hoffset]
    omega
  | true =>
    obtain ⟨-, hcount⟩ := l1aRachFrame_combined h hoffset
    rcases Nat.lt_or_ge (l1aRachFrame time offset true) (time.fn + 3) with hlt | hge
    · have hle := Nat.count_monotone RachSlot (Nat.le_of_lt_succ hlt)
      have htwo := Nat.count_le (p := fun k => RachSlot (time.fn + k)) (n := 2)
      rw [Nat.count_add] at hle
      omega
    · exact hge

end Request

/-- On a combined CCCH, the burst of a request is scheduled for a RACH slot, the one with just as
many RACH slots from the frame of the request on in front of it as the request asks for, and three
more. The offset must leave room in its 16 bits for these three and for the slots of one
multiframe. -/
theorem rach_combined_slot {time : GsmTime} (h : time.Split) (offset : UInt16)
    (hoffset : offset.toNat + 30 < 65536) :
    l1aRachFrame time offset true =
      Nat.nth RachSlot (Nat.count RachSlot time.fn + (offset.toNat + 3)) := by
  obtain ⟨hslot, hcount⟩ := l1aRachFrame_combined h hoffset
  rw [← hcount, Nat.nth_count hslot]

/-- At frame 100 all slots of the multiframe are over. -/
theorem rach_combined_slot_next :
    l1aRachFrame (gsmFn2gsmtime 100) 20 true =
      Nat.nth RachSlot (Nat.count RachSlot 100 + (20 + 3)) ∧
    l1aRachFrame (gsmFn2gsmtime 100) 20 true = 137 :=
  ⟨rach_combined_slot ⟨by decide, rfl⟩ 20 (by decide), by decide⟩

end ImsiCatcher

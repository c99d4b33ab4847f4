import Mathlib.Algebra.GroupWithZero.Nat
import Mathlib.Data.Int.Notation
import Mathlib.Tactic.Common

/-!
# TDMA frame numbers and GSM time

A frame number and the counters T1, T2, T3 and TC that it is split into. The phone carries its
time on frame by frame and does not split the number anew, so its counters have to stay those of
its frame number.
-/

namespace ImsiCatcher

structure GsmTime where
  fn : ℕ := 0
  t1 : ℕ := 0
  t2 : ℕ := 0
  t3 : ℕ := 0
  tc : ℕ := 0
  deriving DecidableEq, Repr

def gsmMaxFn : ℕ := 26 * 51 * 2048

/-- `gsm_fn2gsmtime`; T1 has 16 bits. -/
def gsmFn2gsmtime (fn : ℕ) : GsmTime where
  fn := fn
  t1 := fn / (26 * 51) % 65536
  t2 := fn % 26
  t3 := fn % 51
  tc := fn / 51 % 8

/-- `gsm_gsmtime2fn`: the remainder has the sign of C, and the result 32 bits. -/
def gsmGsmtime2fn (time : GsmTime) : ℕ :=
  ((51 * ((time.t3 : ℤ) - time.t2 + 26).tmod 26 + time.t3 + 26 * 51 * time.t1) %
    4294967296).toNat

structure GsmTime.InRange (time : GsmTime) : Prop where
  t1 : time.t1 < 2048
  t2 : time.t2 < 26
  t3 : time.t3 < 51

theorem gsmGsmtime2fn_of_inRange {time : GsmTime} (h : time.InRange) :
    gsmGsmtime2fn time = 51 * ((time.t3 + 26 - time.t2) % 26) + time.t3 + 26 * 51 * time.t1 := by
  obtain ⟨ht1, ht2, ht3⟩ := h
  have hpos : (time.t3 : ℤ) - time.t2 + 26 = (time.t3 + 26 - time.t2 : ℕ) := by omega
  have hmod : ((time.t3 + 26 - time.t2 : ℕ) : ℤ).tmod 26 =
      ((time.t3 + 26 - time.t2) % 26 : ℕ) :=
    Int.ofNat_tmod _ 26
  rw [gsmGsmtime2fn, hpos, hmod]
  omega

/-- T3 and T2 leave the number of 51-multiframes within the 26 of a superframe. -/
theorem multiframe_of_counters {j t : ℕ} (hj : j < 26) :
    (t + 26 - (51 * j + t) % 26) % 26 = j := by
  have hstep : (51 * j + t) % 26 = (t + 26 - j) % 26 := by omega
  omega

/-- The counters of a frame number give it back. -/
theorem gsmGsmtime2fn_fn2gsmtime {fn : ℕ} (hfn : fn < gsmMaxFn) :
    gsmGsmtime2fn (gsmFn2gsmtime fn) = fn := by
  have hmax : gsmMaxFn = 2715648 := rfl
  have hrange : (gsmFn2gsmtime fn).InRange := by
    refine ⟨?_, Nat.mod_lt _ (by decide), Nat.mod_lt _ (by decide)⟩
    change fn / (26 * 51) % 65536 < 2048
    omega
  have hj : fn % 1326 / 51 < 26 := by omega
  have ht2 : fn % 26 = (51 * (fn % 1326 / 51) + fn % 51) % 26 := by omega
  rw [gsmGsmtime2fn_of_inRange hrange]
  simp only [gsmFn2gsmtime]
  rw [ht2, multiframe_of_counters hj]
  omega

/-! ### The clock of the phone -/

def addModulo (sum delta modulo : ℕ) : ℕ :=
  if modulo ≤ sum + delta then sum + delta - modulo else sum + delta

theorem addModulo_one {sum modulo : ℕ} (h : sum < modulo) :
    addModulo sum 1 modulo = (sum + 1) % modulo := by
  unfold addModulo
  split
  · have hwrap : sum + 1 = modulo := by omega
    rw [hwrap, Nat.sub_self, Nat.mod_self]
  · rw [Nat.mod_eq_of_lt (by omega)]

def l1sTimeInc (time : GsmTime) (deltaFn : ℕ) : GsmTime :=
  let fn := addModulo time.fn deltaFn gsmMaxFn
  if deltaFn = 1 then
    let t2 := addModulo time.t2 1 26
    let t3 := addModulo time.t3 1 51
    { fn := fn
      t1 := if t3 = 0 ∧ t2 = 0 then addModulo time.t1 1 2048 else time.t1
      t2 := t2
      t3 := t3
      tc := if t3 = 0 then addModulo time.tc 1 8 else time.tc }
  else gsmFn2gsmtime fn

def GsmTime.Split (time : GsmTime) : Prop :=
  time.fn < gsmMaxFn ∧ time = gsmFn2gsmtime time.fn

/-- One frame on, each counter wraps with the frame number. -/
theorem l1sTimeInc_one {fn : ℕ} (hfn : fn < gsmMaxFn) :
    l1sTimeInc (gsmFn2gsmtime fn) 1 = gsmFn2gsmtime ((fn + 1) % gsmMaxFn) := by
  have hmax : gsmMaxFn = 2715648 := rfl
  have hbound : fn < 2715648 := hfn
  have ht1 : (gsmFn2gsmtime fn).t1 = fn / 1326 := by
    change fn / (26 * 51) % 65536 = fn / 1326
    omega
  have ht2 : addModulo (gsmFn2gsmtime fn).t2 1 26 = (fn + 1) % 26 :=
    (addModulo_one (Nat.mod_lt fn (by decide))).trans (Nat.mod_add_mod fn 26 1)
  have ht3 : addModulo (gsmFn2gsmtime fn).t3 1 51 = (fn + 1) % 51 :=
    (addModulo_one (Nat.mod_lt fn (by decide))).trans (Nat.mod_add_mod fn 51 1)
  have htc : addModulo (gsmFn2gsmtime fn).tc 1 8 = (fn / 51 % 8 + 1) % 8 :=
    addModulo_one (Nat.mod_lt _ (by decide))
  have hlast : addModulo (fn / 1326) 1 2048 = (fn / 1326 + 1) % 2048 :=
    addModulo_one (by omega)
  rw [l1sTimeInc, if_pos rfl, ht1, ht2, ht3, htc, hlast]
  simp only [gsmFn2gsmtime, GsmTime.mk.injEq]
  refine ⟨addModulo_one hfn, ?_, ?_, ?_, ?_⟩ <;> rw [hmax]
  · split
    case isTrue hwrap =>
      have hsuper : (fn + 1) % 1326 = 0 := by omega
      omega
    case isFalse hwrap =>
      have hsuper : (fn + 1) % 1326 ≠ 0 := by omega
      have hsame : (fn + 1) % 2715648 = fn + 1 := by omega
      have hdiv : (fn + 1) / 1326 = fn / 1326 := by omega
      rw [hsame]
      omega
  · omega
  · omega
  · split <;> omega

theorem l1sTimeInc_split {time : GsmTime} (h : time.Split) {deltaFn : ℕ}
    (hdelta : deltaFn ≤ gsmMaxFn) : (l1sTimeInc time deltaFn).Split ∧
      (l1sTimeInc time deltaFn).fn = (time.fn + deltaFn) % gsmMaxFn := by
  obtain ⟨hfn, htime⟩ := h
  have hbound : time.fn < 2715648 := hfn
  have hstep : deltaFn ≤ 2715648 := hdelta
  have hpos : 0 < gsmMaxFn := by decide
  by_cases hone : deltaFn = 1
  · have hinc : l1sTimeInc time 1 = gsmFn2gsmtime ((time.fn + 1) % gsmMaxFn) := by
      conv_lhs => rw [htime]
      exact l1sTimeInc_one hfn
    subst hone
    rw [hinc]
    exact ⟨⟨Nat.mod_lt _ hpos, rfl⟩, rfl⟩
  · have hadd : addModulo time.fn deltaFn gsmMaxFn = (time.fn + deltaFn) % gsmMaxFn := by
      change addModulo time.fn deltaFn 2715648 = (time.fn + deltaFn) % 2715648
      unfold addModulo
      split <;> omega
    have hinc : l1sTimeInc time deltaFn = gsmFn2gsmtime ((time.fn + deltaFn) % gsmMaxFn) := by
      rw [l1sTimeInc, if_neg hone, hadd]
    rw [hinc]
    exact ⟨⟨Nat.mod_lt _ hpos, rfl⟩, rfl⟩

/-- However the phone's clock is carried on, by one frame or by more, its counters are those of
its frame number, the frame number counts the frames that went by, and the counters give it
back. -/
theorem l1sTime_tracks {start : ℕ} (hstart : start < gsmMaxFn) (deltas : List ℕ)
    (hdeltas : ∀ d ∈ deltas, d ≤ gsmMaxFn) :
    deltas.foldl l1sTimeInc (gsmFn2gsmtime start) =
        gsmFn2gsmtime ((start + deltas.sum) % gsmMaxFn) ∧
      gsmGsmtime2fn (deltas.foldl l1sTimeInc (gsmFn2gsmtime start)) =
        (start + deltas.sum) % gsmMaxFn := by
  have hpos : 0 < gsmMaxFn := by decide
  have htime : deltas.foldl l1sTimeInc (gsmFn2gsmtime start) =
      gsmFn2gsmtime ((start + deltas.sum) % gsmMaxFn) := by
    induction deltas generalizing start with
    | nil => simp [Nat.mod_eq_of_lt hstart]
    | cons d deltas ih =>
      rw [List.forall_mem_cons] at hdeltas
      have hsplit : (gsmFn2gsmtime start).Split := ⟨hstart, rfl⟩
      obtain ⟨hnext, hfn⟩ := l1sTimeInc_split hsplit hdeltas.1
      have hcounters : l1sTimeInc (gsmFn2gsmtime start) d =
          gsmFn2gsmtime ((start + d) % gsmMaxFn) := by
        rw [hnext.2, hfn]
        rfl
      rw [List.foldl_cons, hcounters, ih (Nat.mod_lt _ hpos) hdeltas.2, List.sum_cons,
        Nat.mod_add_mod, Nat.add_assoc]
  refine ⟨htime, ?_⟩
  rw [htime]
  exact gsmGsmtime2fn_fn2gsmtime (Nat.mod_lt _ hpos)

theorem l1sTime_tracks_wrap :
    [1, 1, 5].foldl l1sTimeInc (gsmFn2gsmtime 2715646) =
        gsmFn2gsmtime ((2715646 + [1, 1, 5].sum) % gsmMaxFn) ∧
      gsmGsmtime2fn ([1, 1, 5].foldl l1sTimeInc (gsmFn2gsmtime 2715646)) =
        (2715646 + [1, 1, 5].sum) % gsmMaxFn :=
  l1sTime_tracks (by decide) [1, 1, 5] (by decide)

end ImsiCatcher

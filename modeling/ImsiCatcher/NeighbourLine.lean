import ImsiCatcher.NeighbourMarks
import ImsiCatcher.Sightings

/-!
# The neighbour line

The line lists the marked ARFCNs in order and leaves out the serving one, except where the cell
talks about PCS: there the loop compares a band-qualified ARFCN with an unqualified one, and a
cell between 512 and 810 that marks itself is listed among its own neighbours.
-/

namespace ImsiCatcher

theorem and_arfcnPcs {a : ℕ} (h : a < 1024) : a &&& arfcnPcs = 0 := by
  apply Nat.eq_of_testBit_eq
  intro j
  have hpcs : arfcnPcs = 2 ^ 15 := rfl
  rw [Nat.testBit_and, hpcs, Nat.testBit_two_pow, Nat.zero_testBit]
  by_cases hj : 15 = j
  · subst hj
    rw [Nat.testBit_lt_two_pow (by omega)]
    rfl
  · simp [hj]

theorem or_arfcnPcs_and {i : ℕ} (h : i < 1024) : (i ||| arfcnPcs) &&& 1023 = i := by
  have hlow : arfcnPcs &&& 1023 = 0 := by decide
  have hi : i &&& 1023 = i := by
    rw [Nat.and_two_pow_sub_one_eq_mod i 10]
    exact Nat.mod_eq_of_lt h
  rw [Nat.and_or_distrib_right, hlow, hi, Nat.or_zero]

namespace Gsm48Sysinfo

def inPcsBand (s : Gsm48Sysinfo) (i : ℕ) : Bool := s.si1 ∧ s.bandInd ∧ 512 ≤ i ∧ i ≤ 810

theorem marked_freqTypeNcell (s : Gsm48Sysinfo) (i : ℕ) : s.marked freqTypeNcell i =
    (s.marked freqTypeNcell2 i || s.marked freqTypeNcell2bis i || s.marked freqTypeNcell2ter i) := by
  have hsplit : freqTypeNcell = freqTypeNcell2 ||| (freqTypeNcell2bis ||| freqTypeNcell2ter) := rfl
  unfold marked
  rw [hsplit, Masks.and_or_distrib, Masks.and_or_distrib, Bool.or_assoc]
  simp only [ne_eq, UInt8.or_eq_zero_iff, not_and_or, Bool.decide_or]

theorem neighbourArfcn_eq {s : Gsm48Sysinfo} (h : s.arfcn < 1024) {i : ℕ} (hi : i < 1024) :
    s.neighbourArfcn s.arfcn i = if s.inPcsBand i then i ||| arfcnPcs else i := by
  have hpcs : myGsmReferPcs s.arfcn s = (s.si1 && s.bandInd) := by
    unfold myGsmReferPcs
    rw [and_arfcnPcs h]
    cases s.si1 <;> rfl
  unfold neighbourArfcn inPcsBand
  rw [hpcs]
  by_cases hband : s.si1 = true ∧ s.bandInd = true ∧ 512 ≤ i ∧ i ≤ 810
  · obtain ⟨h1, hind, hlow, hhigh⟩ := hband
    have hindex : i - 512 + 1024 - 1024 + 512 = i := by omega
    simp only [h1, hind, hlow, hhigh, Bool.and_self, and_self, if_true, decide_true, myIndex2arfcn]
    rw [if_pos (by omega), hindex]
  · have hnot : ¬((s.si1 && s.bandInd) = true ∧ 512 ≤ i ∧ i ≤ 810) := by
      intro hall
      rw [Bool.and_eq_true] at hall
      exact hband ⟨hall.1.1, hall.1.2, hall.2⟩
    rw [if_neg hnot, if_neg (by simpa using hband), myIndex2arfcn, if_neg (by omega)]

/-- A marked ARFCN is listed if it is another one or lies in the PCS band of the cell. -/
theorem printedNeighbours_eq {s : Gsm48Sysinfo} (h : s.arfcn < 1024) :
    s.printedNeighbours = (List.range 1024).filter fun i =>
      s.marked freqTypeNcell i && (s.inPcsBand i || decide (i ≠ s.arfcn)) := by
  unfold printedNeighbours neighboursBeside
  have hkept : ∀ i ∈ List.range 1024,
      decide (s.freq i &&& freqTypeNcell ≠ 0 ∧ s.neighbourArfcn s.arfcn i ≠ s.arfcn) =
        (s.marked freqTypeNcell i && (s.inPcsBand i || decide (i ≠ s.arfcn))) := by
    intro i hi
    rw [neighbourArfcn_eq h (List.mem_range.1 hi), Bool.decide_and]
    unfold marked
    congr 1
    by_cases hband : s.inPcsBand i = true
    · have hle : arfcnPcs ≤ i ||| arfcnPcs := Nat.right_le_or
      have hne : i ||| arfcnPcs ≠ s.arfcn := by
        have hpcs : arfcnPcs = 32768 := rfl
        omega
      rw [if_pos hband, hband]
      simp [hne]
    · rw [if_neg hband]
      simp [hband]
  rw [List.filter_congr hkept]
  have hlow : ∀ i ∈ (List.range 1024).filter fun i =>
      s.marked freqTypeNcell i && (s.inPcsBand i || decide (i ≠ s.arfcn)),
      s.neighbourArfcn s.arfcn i &&& 1023 = id i := by
    intro i hi
    have hlt : i < 1024 := List.mem_range.1 (List.mem_filter.1 hi).1
    rw [neighbourArfcn_eq h hlt]
    split
    · exact or_arfcnPcs_and hlt
    · rw [Nat.and_two_pow_sub_one_eq_mod i 10]
      exact Nat.mod_eq_of_lt hlt
  rw [List.map_congr_left hlow, List.map_id]

/-- The ARFCNs that one of the three lists marks, without the serving one. -/
def othersMarked (s : Gsm48Sysinfo) : List ℕ := (List.range 1024).filter fun i =>
  (s.marked freqTypeNcell2 i ∨ s.marked freqTypeNcell2bis i ∨ s.marked freqTypeNcell2ter i) ∧
    i ≠ s.arfcn

theorem printedNeighbours_eq_others_iff {s : Gsm48Sysinfo} (h : s.arfcn < 1024) :
    s.printedNeighbours = s.othersMarked ↔
      ¬(s.inPcsBand s.arfcn ∧ s.marked freqTypeNcell s.arfcn) := by
  have hothers : s.othersMarked = (List.range 1024).filter fun i =>
      s.marked freqTypeNcell i && decide (i ≠ s.arfcn) := by
    apply List.filter_congr
    intro i _
    rw [marked_freqTypeNcell, Bool.decide_and, Bool.decide_or, Bool.decide_or]
    simp only [Bool.decide_eq_true, Bool.or_assoc]
  rw [printedNeighbours_eq h, hothers]
  constructor
  · rintro heq ⟨hband, hmark⟩
    have hmem : s.arfcn ∈ (List.range 1024).filter fun i =>
        s.marked freqTypeNcell i && (s.inPcsBand i || decide (i ≠ s.arfcn)) := by
      rw [List.mem_filter, hmark, hband]
      exact ⟨List.mem_range.2 h, rfl⟩
    rw [heq, List.mem_filter] at hmem
    simp at hmem
  · intro hnot
    apply List.filter_congr
    intro i _
    by_cases hi : i = s.arfcn
    · rw [hi]
      cases hband : s.inPcsBand s.arfcn with
      | false => simp
      | true =>
        have hunmarked : s.marked freqTypeNcell s.arfcn = false := by
          cases hmark : s.marked freqTypeNcell s.arfcn with
          | false => rfl
          | true => exact absurd ⟨hband, hmark⟩ hnot
        rw [hunmarked]
        rfl
    · simp [hi]

end Gsm48Sysinfo

theorem neighboursLine_injective : Function.Injective neighboursLine := by
  intro l l' h
  have htext : neighboursText l = neighboursText l' := by
    simpa [neighboursLine, logLine, neighboursText] using h
  have hnil : ∀ k : List ℕ, neighboursText k = [] → k = [] := by
    intro k hk
    cases k with
    | nil => rfl
    | cons a k =>
      rw [neighboursText_cons] at hk
      exact absurd hk (by simp)
  by_cases hl : l = []
  · rw [hl] at htext ⊢
    exact (hnil l' htext.symm).symm
  by_cases hl' : l' = []
  · rw [hl'] at htext
    exact absurd (hnil l htext) hl
  · have hwords := split_strip_neighboursText hl
    rw [htext, split_strip_neighboursText hl'] at hwords
    exact List.map_injective_iff.2 Text.decimal_injective hwords.symm

/-- The neighbour line of a cell lists the marked ARFCNs without its own, each once and in order,
exactly when the cell does not talk about PCS while its own ARFCN is one of 512 to 810 and
is marked. -/
theorem neighbours_line_exact_iff (networks : List GsmNetwork) (s : Gsm48Sysinfo)
    (meas : RxMeasStat) (h : s.arfcn < 1024) :
    (sysinfoLines networks s meas)[8]? = some (neighboursLine s.othersMarked) ↔
      ¬(s.si1 ∧ s.bandInd ∧ 512 ≤ s.arfcn ∧ s.arfcn ≤ 810 ∧ s.marked freqTypeNcell s.arfcn) := by
  have hline : (sysinfoLines networks s meas)[8]? = some (neighboursLine s.printedNeighbours) := rfl
  have hband : s.inPcsBand s.arfcn = true ↔
      s.si1 = true ∧ s.bandInd = true ∧ 512 ≤ s.arfcn ∧ s.arfcn ≤ 810 := by
    simp [Gsm48Sysinfo.inPcsBand]
  rw [hline, Option.some_inj, neighboursLine_injective.eq_iff,
    Gsm48Sysinfo.printedNeighbours_eq_others_iff h, hband]
  simp only [and_assoc]

def selfMarkingCell (arfcn : ℕ) (bandInd : Bool) : Gsm48Sysinfo :=
  { si1 := true, bandInd := bandInd, arfcn := arfcn,
    freq := markFreqs (fun _ => 0) freqTypeNcell2 [30, arfcn] }

theorem neighbours_line_exact_dcs :
    (sysinfoLines [] (selfMarkingCell 600 false) {})[8]? =
      some (neighboursLine (selfMarkingCell 600 false).othersMarked) :=
  (neighbours_line_exact_iff [] (selfMarkingCell 600 false) {} (by decide)).2 (by decide)

/-- A PCS cell on ARFCN 600 lists itself. -/
theorem neighbours_line_lists_itself : ¬ ∀ (networks : List GsmNetwork) (s : Gsm48Sysinfo)
    (meas : RxMeasStat), s.arfcn < 1024 →
    (sysinfoLines networks s meas)[8]? = some (neighboursLine s.othersMarked) := by
  intro h
  have hlist : (selfMarkingCell 600 true).printedNeighbours =
      (selfMarkingCell 600 true).othersMarked :=
    neighboursLine_injective (Option.some.inj (h [] (selfMarkingCell 600 true) {} (by decide)))
  rw [Gsm48Sysinfo.printedNeighbours_eq_others_iff (by decide)] at hlist
  exact hlist (by decide)

end ImsiCatcher

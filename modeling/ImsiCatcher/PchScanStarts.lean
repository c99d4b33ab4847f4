import ImsiCatcher.Session

/-!
# What the operations start

A scan is started only by `_do_next_pch_scan`, and only when the running flag is clear. The
callbacks and the lookups are described by the scans that they start and by the flags that
they leave.
-/

namespace ImsiCatcher

theorem pchStarts_append (calls calls' : List ControllerCall) :
    pchStarts (calls ++ calls') = pchStarts calls ++ pchStarts calls' := List.filterMap_append

theorem pchResults_append (calls calls' : List ControllerCall) :
    pchResults (calls ++ calls') = pchResults calls ++ pchResults calls' := List.filterMap_append

/-! ### What the operations start -/

theorem Lookup.ask_starts {l : Lookup} {enabled : Bool} {name : String}
    {answer : Option LookupAnswer} {take : Lookup → LookupAnswer → Lookup}
    (htake : ∀ l a, pchStarts l.calls = [] → pchStarts (take l a).calls = [])
    (hl : pchStarts l.calls = []) : pchStarts (l.ask enabled name answer take).calls = [] := by
  have hsaid : ∀ line, pchStarts (l.calls ++ [.logLine line]) = [] := by
    intro line
    rw [pchStarts_append, hl]
    rfl
  unfold ask
  split
  · exact hl
  · cases answer with
    | none => exact hsaid _
    | some a => exact htake _ a (hsaid _)

theorem Lookup.say_starts {l : Lookup} (hl : pchStarts l.calls = []) (line : String) :
    pchStarts (l.say line).calls = [] := by
  unfold say
  rw [pchStarts_append, hl]
  rfl

namespace Controller

theorem lookUp_starts (c : Controller) (answer : CIDDatabases → Option LookupAnswer)
    (station : BaseStationInformation) : pchStarts (c.lookUp answer station).calls = [] := by
  unfold lookUp
  refine Lookup.ask_starts ?_ (Lookup.ask_starts ?_ (Lookup.ask_starts ?_ rfl))
  · intro l a hl
    unfold Lookup.takeLocal
    split
    · exact Lookup.say_starts hl _
    · exact hl
  · intro l a hl
    unfold Lookup.takeOpenCellId
    split
    · exact Lookup.say_starts hl _
    · split
      · exact Lookup.say_starts hl _
      · exact hl
  · intro l a hl
    unfold Lookup.takeGoogle
    split
    · exact Lookup.say_starts hl _
    · exact hl

theorem lookUps_starts (c : Controller) (answers : ℤ → CIDDatabases → Option LookupAnswer)
    (stations : List BaseStationInformation) :
    pchStarts ((c.lookUps answers stations).flatMap (·.calls)) = [] := by
  induction stations with
  | nil => rfl
  | cons station rest ih =>
    simp only [lookUps]
    split
    · rw [List.flatMap_singleton]
      exact lookUp_starts c _ station
    · rw [List.flatMap_cons, pchStarts_append, lookUp_starts, ih]
      rfl

theorem updateWithWebServices_starts (c : Controller)
    (answers : ℤ → CIDDatabases → Option LookupAnswer) :
    pchStarts (c.updateWithWebServices answers).2 = [] := by
  have h := c.lookUps_starts answers c.stations
  simp only [updateWithWebServices]
  split
  · rw [List.append_nil]
    exact h
  · rw [pchStarts_append]
    change pchStarts _ ++ [] = []
    rw [List.append_nil]
    exact h

/-- Either nothing is started, or the last of the queue is and the running flag is set. -/
theorem doNextPchScan_cases (c : Controller) :
    (∃ calls, pchStarts calls = [] ∧ pchResults calls = [] ∧
      (c.pchScanRunning = true ∨ c.remainingPchArfcns = []) ∧
      c.doNextPchScan =
        ({ c with remainingPchArfcns := c.remainingPchArfcns.dropLast }, calls)) ∨
    ∃ arfcn calls, pchStarts calls = [arfcn] ∧ pchResults calls = [] ∧
      c.pchScanRunning = false ∧ c.remainingPchArfcns.getLast? = some arfcn ∧
      c.doNextPchScan = ({ c with
        remainingPchArfcns := c.remainingPchArfcns.dropLast
        pchScanRunning := true }, calls) := by
  unfold doNextPchScan
  cases hlast : c.remainingPchArfcns.getLast? with
  | none =>
    have hnil : c.remainingPchArfcns = [] := List.getLast?_eq_none_iff.1 hlast
    refine Or.inl ⟨[], rfl, rfl, Or.inr hnil, ?_⟩
    cases c
    simp_all
  | some arfcn =>
    cases hrun : c.pchScanRunning with
    | true => exact Or.inl ⟨_, rfl, rfl, Or.inl rfl, rfl⟩
    | false => exact Or.inr ⟨arfcn, _, rfl, rfl, rfl, rfl, rfl⟩

theorem doNextPchScan_flags (c : Controller) :
    c.doNextPchScan.1.sweepActive = c.sweepActive ∧ c.doNextPchScan.1.pchActive = c.pchActive ∧
      c.doNextPchScan.1.userModeFlag = c.userModeFlag := by
  rcases c.doNextPchScan_cases with ⟨_, _, _, _, h⟩ | ⟨_, _, _, _, _, _, h⟩
  all_goals rw [h]; exact ⟨rfl, rfl, rfl⟩

/-- A user request leaves the sweep alone, and switches the user mode on only for a provider and
without a sweep. It starts at most the scan of the strongest station, and only if none runs. -/
theorem userPchScan_cases (c : Controller) (provider : Text) :
    (c.userPchScan provider).1.sweepActive = c.sweepActive ∧
    (c.pchActive = true → (c.userPchScan provider).1.pchActive = true) ∧
    ((c.userPchScan provider).1.userModeFlag = true →
      c.userModeFlag = true ∨ provider ≠ [] ∧ c.sweepActive = false) ∧
    (pchStarts (c.userPchScan provider).2 = [] ∧
        (c.userPchScan provider).1.pchScanRunning = c.pchScanRunning ∨
      ∃ station, strongestStation c.stations provider = some station ∧
        pchStarts (c.userPchScan provider).2 = [station.arfcn] ∧
        c.sweepActive = false ∧ c.pchScanRunning = false ∧
        (c.userPchScan provider).1.pchScanRunning = true ∧
        (c.userPchScan provider).1.pchActive = true) := by
  unfold userPchScan
  by_cases hsweep : c.sweepActive = true
  · rw [if_pos hsweep]
    exact ⟨rfl, id, Or.inl, Or.inl ⟨rfl, rfl⟩⟩
  rw [if_neg hsweep]
  dsimp only
  have hoff : c.sweepActive = false := by simpa using hsweep
  by_cases hprovider : provider = []
  · rw [if_pos hprovider]
    exact ⟨rfl, fun _ => rfl, Or.inl, Or.inl ⟨rfl, rfl⟩⟩
  rw [if_neg hprovider]
  have hasks : c.userModeFlag = true ∨ provider ≠ [] ∧ c.sweepActive = false :=
    Or.inr ⟨hprovider, hoff⟩
  cases hstation : strongestStation c.stations provider with
  | none => exact ⟨rfl, fun _ => rfl, fun _ => hasks, Or.inl ⟨rfl, rfl⟩⟩
  | some station =>
    by_cases hok : station.evaluation = some .ok
    · dsimp only
      rw [if_pos hok]
      generalize hc : ({ c with
        pchActive := true
        userModeFlag := true
        remainingPchArfcns := [station.arfcn]
        accumulatedPchResults := [] } : Controller) = c'
      rcases c'.doNextPchScan_cases with ⟨calls, hcalls, _, _, heq⟩ |
        ⟨arfcn, calls, hcalls, _, hfree, hlast, heq⟩
      · rw [heq, ← hc]
        exact ⟨rfl, fun _ => rfl, fun _ => hasks, Or.inl ⟨hcalls, rfl⟩⟩
      · obtain rfl : station.arfcn = arfcn := by
          rw [← hc] at hlast
          simpa using hlast
        rw [heq, ← hc]
        rw [← hc] at hfree
        exact ⟨rfl, fun _ => rfl, fun _ => hasks,
          Or.inr ⟨station, rfl, hcalls, hoff, hfree, rfl, rfl⟩⟩
    · dsimp only
      rw [if_neg hok]
      exact ⟨rfl, fun _ => rfl, fun _ => hasks, Or.inl ⟨rfl, rfl⟩⟩

theorem advanceBatch_flags (c : Controller) :
    c.advanceBatch.1.sweepActive = c.sweepActive ∧
      c.advanceBatch.1.userModeFlag = c.userModeFlag := by
  unfold advanceBatch
  split
  · exact ⟨rfl, rfl⟩
  · exact ⟨(doNextPchScan_flags c).1, (doNextPchScan_flags c).2.2⟩

theorem advanceBatch_image (c : Controller) (image : Option RuleResult) :
    .setUserImage image ∉ c.advanceBatch.2 := by
  unfold advanceBatch doNextPchScan
  split
  · simp
  · split
    · simp
    · simp only
      split <;> simp

theorem advanceBatch_starts {c : Controller} (h : pchStarts c.advanceBatch.2 ≠ []) :
    c.remainingPchArfcns ≠ [] ∧ c.pchScanRunning = false := by
  unfold advanceBatch at h
  by_cases hnil : c.remainingPchArfcns = []
  · rw [if_pos hnil] at h
    exact absurd rfl h
  · rw [if_neg hnil] at h
    rcases c.doNextPchScan_cases with ⟨calls, hcalls, _, _, heq⟩ | ⟨_, _, _, _, hrun, _, _⟩
    · rw [heq] at h
      exact absurd hcalls h
    · exact ⟨hnil, hrun⟩

theorem advanceBatch_running {c : Controller} (h : c.pchScanRunning = true) :
    c.advanceBatch.1.pchScanRunning = true := by
  unfold advanceBatch
  split
  · exact h
  · rcases c.doNextPchScan_cases with ⟨_, _, _, _, heq⟩ | ⟨_, _, _, _, hrun, _, _⟩
    · rw [heq]
      exact h
    · rw [h] at hrun
      exact absurd hrun.symm Bool.false_ne_true

theorem advanceBatch_next {c : Controller} {next : ℤ} {queue : List ℤ}
    (hqueue : c.remainingPchArfcns = (next :: queue).reverse) (hrun : c.pchScanRunning = false) :
    ∃ line, c.advanceBatch = ({ c with
      remainingPchArfcns := queue.reverse
      pchScanRunning := true }, [.logLine line, .startPchScan next c.pchTimeout]) := by
  rw [List.reverse_cons] at hqueue
  unfold advanceBatch doNextPchScan
  simp only [hqueue, hrun, List.getLast?_concat, List.dropLast_concat, List.append_eq_nil_iff,
    List.cons_ne_nil, and_false, if_false, Bool.false_eq_true]
  exact ⟨_, rfl⟩

theorem pchDoneCallback_flags (c : Controller) (arfcn : ℤ) (values : PchResult) (failed : Bool) :
    (c.pchDoneCallback arfcn values failed).1.sweepActive = c.sweepActive ∧
      (c.pchDoneCallback arfcn values failed).1.userModeFlag = c.userModeFlag := by
  cases hmode : c.userModeFlag with
  | true => cases failed <;> simp [pchDoneCallback, pchFailed, pchSucceeded, integratePch, hmode]
  | false =>
    cases failed with
    | true =>
      have h := advanceBatch_flags c
      simp only [pchDoneCallback, pchFailed, hmode, if_true]
      exact ⟨h.1, h.2.trans hmode⟩
    | false =>
      simp only [pchDoneCallback, pchSucceeded, integratePch, hmode, Bool.false_eq_true, if_false]
      exact advanceBatch_flags _

/-- A callback starts a scan only in a batch that goes on. -/
theorem pchDoneCallback_starts {c : Controller} {arfcn : ℤ} {values : PchResult} {failed : Bool}
    (h : pchStarts (c.pchDoneCallback arfcn values failed).2 ≠ []) :
    c.userModeFlag = false ∧ c.remainingPchArfcns ≠ [] ∧
      (failed = false ∨ c.pchScanRunning = false) := by
  cases hmode : c.userModeFlag with
  | true =>
    cases failed <;>
      simp [pchDoneCallback, pchFailed, pchSucceeded, integratePch, hmode, pchStarts, log] at h
  | false =>
    cases failed with
    | true =>
      simp only [pchDoneCallback, pchFailed, hmode, if_true, Bool.false_eq_true, if_false] at h
      exact ⟨rfl, (advanceBatch_starts h).1, Or.inr (advanceBatch_starts h).2⟩
    | false =>
      simp only [pchDoneCallback, pchSucceeded, integratePch, hmode, Bool.false_eq_true,
        if_false] at h
      exact ⟨rfl, (advanceBatch_starts h).1, Or.inl rfl⟩

end Controller

end ImsiCatcher

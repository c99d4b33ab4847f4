import ImsiCatcher.PchScanStarts

/-!
# Batches of PCH scans

A batch takes its ARFCNs from the end of the queue, one for each callback. A successful
callback collects the result and starts the next scan; a failed one leaves the running flag
set, so that nothing is started any more.
-/

namespace ImsiCatcher

namespace Session

/-! ### Batches -/

def callbacks (outcomes : List (PchResult × Bool)) : List SessionEvent :=
  outcomes.map fun o => .pchDone 0 o.1 o.2

def succeeded (arfcns : List ℤ) (outcomes : List (PchResult × Bool)) : List (ℤ × PchResult) :=
  ((arfcns.zip outcomes).filter fun p => !p.2.2).map fun p => (p.1, p.2.1)

/-- A batch scans `arfcn`, has `queue` still to scan, in this order, and has collected `acc`. -/
structure Scanning (s : Session) (arfcn : ℤ) (queue : List ℤ) (acc : List (ℤ × PchResult)) :
    Prop where
  outstanding : s.outstanding = [arfcn]
  running : s.controller.pchScanRunning = true
  normal : s.controller.userModeFlag = false
  sweep : s.controller.sweepActive = false
  remaining : s.controller.remainingPchArfcns = queue.reverse
  accumulated : s.controller.accumulatedPchResults = acc

theorem exists_eq_reverse_cons {arfcns : List ℤ} (h : arfcns ≠ []) :
    ∃ arfcn queue, arfcns = (arfcn :: queue).reverse := by
  obtain ⟨arfcn, queue, hrev⟩ := List.exists_cons_of_ne_nil (List.reverse_ne_nil_iff.2 h)
  exact ⟨arfcn, queue, by rw [← hrev, List.reverse_reverse]⟩

theorem run_callbacks_none {s : Session} (hs : s.outstanding = [])
    (outcomes : List (PchResult × Bool)) : session.run s (callbacks outcomes) = (s, []) := by
  induction outcomes with
  | nil => rfl
  | cons o outcomes ih =>
    have hstep : session.step s (.pchDone 0 o.1 o.2) = (s, []) := by
      change s.pchDone 0 o.1 o.2 = _
      unfold pchDone
      rw [hs]
      rfl
    change session.run s (.pchDone 0 o.1 o.2 :: callbacks outcomes) = _
    rw [Machine.run_cons, hstep, ih]
    rfl

theorem pchDone_zero {s : Session} {arfcn : ℤ} (hs : s.outstanding = [arfcn]) (values : PchResult)
    (failed : Bool) : ∃ scanned, s.pchDone 0 values failed =
      ({ s with outstanding := [], scanned := scanned } : Session).moved
        (s.controller.pchDoneCallback arfcn values failed) := by
  unfold pchDone
  rw [hs]
  exact ⟨_, rfl⟩

/-- A failed scan ends its batch: nothing is outstanding, and the running flag is stuck. -/
theorem pchDone_failed {s : Session} {arfcn : ℤ} {queue : List ℤ} {acc : List (ℤ × PchResult)}
    (hs : s.Scanning arfcn queue acc) (values : PchResult) :
    (s.pchDone 0 values true).1.outstanding = [] ∧
      (s.pchDone 0 values true).1.controller.pchScanRunning = true := by
  obtain ⟨scanned, heq⟩ := pchDone_zero hs.outstanding values true
  have hstarts : pchStarts (s.controller.pchDoneCallback arfcn values true).2 = [] := by
    by_contra h
    obtain ⟨_, _, hfrom⟩ := Controller.pchDoneCallback_starts h
    rw [hs.running] at hfrom
    simp at hfrom
  rw [heq]
  unfold moved
  refine ⟨by simp only [hstarts, List.append_nil], ?_⟩
  simp only [Controller.pchDoneCallback, Controller.pchFailed, hs.normal, Bool.false_eq_true,
    if_true, if_false]
  exact Controller.advanceBatch_running hs.running

/-- A successful scan is collected, and the next of the queue is started. -/
theorem pchDone_next {s : Session} {arfcn next : ℤ} {queue : List ℤ}
    {acc : List (ℤ × PchResult)} (hs : s.Scanning arfcn (next :: queue) acc)
    (values : PchResult) :
    pchStarts (s.pchDone 0 values false).2 = [next] ∧
      pchResults (s.pchDone 0 values false).2 = [] ∧
      (s.pchDone 0 values false).1.Scanning next queue (acc ++ [(arfcn, values)]) := by
  obtain ⟨scanned, heq⟩ := pchDone_zero hs.outstanding values false
  generalize hc : ({ s.controller.integratePch arfcn values with
    accumulatedPchResults := s.controller.accumulatedPchResults ++ [(arfcn, values)]
    pchScanRunning := false } : Controller) = c
  have hcall : s.controller.pchDoneCallback arfcn values false =
      ({ c.advanceBatch.1 with pchActive := false },
        .logLine ("Finished PCH scan on ARFCN ".toList ++ Text.decimalInt arfcn) ::
          c.advanceBatch.2) := by
    rw [← hc]
    simp only [Controller.pchDoneCallback, Controller.pchSucceeded, Controller.integratePch,
      hs.normal, Bool.false_eq_true, if_false]
  have hqueue : c.remainingPchArfcns = (next :: queue).reverse := by
    rw [← hc]
    exact hs.remaining
  have hrun : c.pchScanRunning = false := by rw [← hc]
  obtain ⟨line, hnext⟩ := Controller.advanceBatch_next hqueue hrun
  rw [heq, hcall, hnext, ← hc]
  exact ⟨rfl, rfl, rfl, rfl, hs.normal, hs.sweep, rfl, by rw [← hs.accumulated]; rfl⟩

/-- With nothing queued, a successful scan hands the results over. -/
theorem pchDone_last {s : Session} {arfcn : ℤ} {acc : List (ℤ × PchResult)}
    (hs : s.Scanning arfcn [] acc) (values : PchResult) :
    pchStarts (s.pchDone 0 values false).2 = [] ∧
      pchResults (s.pchDone 0 values false).2 = [acc ++ [(arfcn, values)]] ∧
      (s.pchDone 0 values false).1.outstanding = [] ∧
      (s.pchDone 0 values false).1.controller.pchScanRunning = false ∧
      (s.pchDone 0 values false).1.controller.sweepActive = false := by
  obtain ⟨scanned, heq⟩ := pchDone_zero hs.outstanding values false
  have hremaining : s.controller.remainingPchArfcns = [] := hs.remaining
  rw [heq]
  unfold moved
  simp only [Controller.pchDoneCallback, Controller.pchSucceeded, Controller.integratePch,
    Controller.advanceBatch, hs.normal, hremaining, hs.accumulated, Bool.false_eq_true, if_false,
    if_true]
  exact ⟨rfl, rfl, rfl, trivial, hs.sweep⟩

/-- A batch of which all scans succeed. -/
theorem run_batch_succeeded {s : Session} {arfcn : ℤ} {queue : List ℤ}
    {acc : List (ℤ × PchResult)} (hs : s.Scanning arfcn queue acc)
    {outcomes : List (PchResult × Bool)} (hlen : outcomes.length = queue.length + 1)
    (hall : ∀ o ∈ outcomes, o.2 = false) :
    pchStarts (session.run s (callbacks outcomes)).2 = queue ∧
      pchResults (session.run s (callbacks outcomes)).2 =
        [acc ++ succeeded (arfcn :: queue) outcomes] ∧
      pchResults (session.run s (callbacks outcomes.dropLast)).2 = [] ∧
      (session.run s (callbacks outcomes)).1.outstanding = [] ∧
      (session.run s (callbacks outcomes)).1.controller.pchScanRunning = false ∧
      (session.run s (callbacks outcomes)).1.controller.sweepActive = false := by
  induction queue generalizing s arfcn acc outcomes with
  | nil =>
    obtain ⟨⟨values, failed⟩, rfl⟩ := List.length_eq_one_iff.1 hlen
    obtain rfl : failed = false := hall _ (List.mem_singleton_self _)
    obtain ⟨hstarts, hresults, hout, hrun, hsweep⟩ := pchDone_last hs values
    have hcall : session.run s (callbacks [(values, false)]) = s.pchDone 0 values false := by
      change ((s.pchDone 0 values false).1, (s.pchDone 0 values false).2 ++ []) = _
      rw [List.append_nil]
    rw [hcall]
    exact ⟨hstarts, hresults, rfl, hout, hrun, hsweep⟩
  | cons next queue ih =>
    obtain ⟨⟨values, failed⟩, outcomes, rfl⟩ := List.exists_cons_of_length_eq_add_one hlen
    obtain rfl : failed = false := hall _ List.mem_cons_self
    obtain ⟨hstarts, hresults, hscan⟩ := pchDone_next hs values
    have hlen' : outcomes.length = queue.length + 1 := by simpa using hlen
    obtain ⟨ih1, ih2, ih3, ih4, ih5, ih6⟩ :=
      ih hscan hlen' fun o ho => hall o (List.mem_cons_of_mem _ ho)
    have hcall : ∀ os, session.run s (callbacks ((values, false) :: os)) =
        ((session.run (s.pchDone 0 values false).1 (callbacks os)).1,
          (s.pchDone 0 values false).2 ++
            (session.run (s.pchDone 0 values false).1 (callbacks os)).2) := fun os => rfl
    have hne : outcomes ≠ [] := List.ne_nil_of_length_pos (by omega)
    rw [List.dropLast_cons_of_ne_nil hne, hcall, hcall, pchStarts_append, pchResults_append,
      pchResults_append, hstarts, hresults, ih1, ih2, ih3]
    refine ⟨rfl, ?_, rfl, ih4, ih5, ih6⟩
    simp [succeeded]

/-- A batch in which a scan fails. -/
theorem run_batch_failed {s : Session} {arfcn : ℤ} {queue : List ℤ}
    {acc : List (ℤ × PchResult)} (hs : s.Scanning arfcn queue acc)
    {outcomes : List (PchResult × Bool)} (hlen : outcomes.length = queue.length + 1)
    (hfailed : ∃ o ∈ outcomes, o.2 = true) :
    (session.run s (callbacks outcomes)).1.controller.pchScanRunning = true := by
  induction queue generalizing s arfcn acc outcomes with
  | nil =>
    obtain ⟨⟨values, failed⟩, rfl⟩ := List.length_eq_one_iff.1 hlen
    obtain ⟨o, ho, hof⟩ := hfailed
    rw [List.mem_singleton] at ho
    obtain rfl : failed = true := by rw [ho] at hof; exact hof
    exact (pchDone_failed hs values).2
  | cons next queue ih =>
    obtain ⟨⟨values, failed⟩, outcomes, rfl⟩ := List.exists_cons_of_length_eq_add_one hlen
    have hcall : (session.run s (callbacks ((values, failed) :: outcomes))).1 =
        (session.run (s.pchDone 0 values failed).1 (callbacks outcomes)).1 := rfl
    rw [hcall]
    cases failed with
    | true =>
      obtain ⟨hout, hrun⟩ := pchDone_failed hs values
      rw [run_callbacks_none hout]
      exact hrun
    | false =>
      obtain ⟨_, _, hscan⟩ := pchDone_next hs values
      have hlen' : outcomes.length = queue.length + 1 := by simpa using hlen
      apply ih hscan hlen'
      obtain ⟨o, ho, hof⟩ := hfailed
      rcases List.mem_cons.1 ho with rfl | ho
      · exact absurd hof Bool.false_ne_true
      · exact ⟨o, ho, hof⟩

def StartsBatches (s : Session) : Prop :=
  ∀ arfcns timeout, arfcns ≠ [] →
    pchStarts (session.step s (.normalPchScan arfcns timeout)).2 = arfcns.getLast?.toList

theorem normalPchScan_idle {s : Session} (hsweep : s.controller.sweepActive = false)
    (hout : s.outstanding = []) (hrun : s.controller.pchScanRunning = false) (arfcn : ℤ)
    (queue : List ℤ) (timeout : ℤ) :
    pchStarts (session.step s (.normalPchScan (arfcn :: queue).reverse timeout)).2 = [arfcn] ∧
      pchResults (session.step s (.normalPchScan (arfcn :: queue).reverse timeout)).2 = [] ∧
      (session.step s (.normalPchScan (arfcn :: queue).reverse timeout)).1.Scanning arfcn queue
        [] := by
  change pchStarts (s.moved _).2 = _ ∧ pchResults (s.moved _).2 = _ ∧ (s.moved _).1.Scanning _ _ _
  simp only [Controller.normalPchScan, hsweep, Bool.false_eq_true, if_false, Controller.scanPch,
    Controller.doNextPchScan, List.reverse_cons, List.getLast?_concat, List.dropLast_concat, hrun]
  refine ⟨rfl, rfl, ?_, rfl, rfl, rfl, rfl, rfl⟩
  change s.outstanding ++ [arfcn] = [arfcn]
  rw [hout]
  rfl

theorem normalPchScan_stuck {s : Session} (hrun : s.controller.pchScanRunning = true)
    (arfcns : List ℤ) (timeout : ℤ) :
    pchStarts (session.step s (.normalPchScan arfcns timeout)).2 = [] ∧
      (session.step s (.normalPchScan arfcns timeout)).1.outstanding = s.outstanding := by
  have hstarts : pchStarts (s.controller.normalPchScan arfcns timeout).2 = [] := by
    unfold Controller.normalPchScan Controller.scanPch
    split
    · rfl
    · rcases Controller.doNextPchScan_cases _ with ⟨calls, hcalls, _, _, heq⟩ |
        ⟨_, _, _, _, hoff, _, _⟩
      · rw [heq]
        exact hcalls
      · exact absurd (hrun.symm.trans hoff) Bool.noConfusion
  refine ⟨hstarts, ?_⟩
  change s.outstanding ++ pchStarts (s.controller.normalPchScan arfcns timeout).2 = _
  rw [hstarts, List.append_nil]

/-- Each ARFCN is scanned once, the results of the scans that did not fail are handed over
after the last callback, and another batch can start. -/
structure BatchCompleted (s : Session) (arfcns : List ℤ) (timeout : ℤ)
    (outcomes : List (PchResult × Bool)) : Prop where
  starts : (pchStarts (session.run s (.normalPchScan arfcns timeout :: callbacks outcomes)).2).Perm
    arfcns
  pending : pchResults
    (session.run s (.normalPchScan arfcns timeout :: callbacks outcomes.dropLast)).2 = []
  results : pchResults (session.run s (.normalPchScan arfcns timeout :: callbacks outcomes)).2 =
    [succeeded arfcns.reverse outcomes]
  again : (session.run s
    (.normalPchScan arfcns timeout :: callbacks outcomes)).1.StartsBatches

end Session

/-- A batch is completed exactly when no failure before it left the running flag set and none
of its own scans fails. -/
theorem session_batch_completed_iff (s : Session) (arfcns : List ℤ) (timeout : ℤ)
    (outcomes : List (PchResult × Bool)) (hsweep : s.controller.sweepActive = false)
    (hout : s.outstanding = []) (hne : arfcns ≠ []) (hlen : outcomes.length = arfcns.length) :
    s.BatchCompleted arfcns timeout outcomes ↔
      s.controller.pchScanRunning = false ∧ ∀ o ∈ outcomes, o.2 = false := by
  obtain ⟨arfcn, queue, hrev⟩ := Session.exists_eq_reverse_cons hne
  have hlen' : outcomes.length = queue.length + 1 := by rw [hlen, hrev]; simp
  have hrun : ∀ os, session.run s (.normalPchScan arfcns timeout :: Session.callbacks os) =
      ((session.run (session.step s (.normalPchScan arfcns timeout)).1 (Session.callbacks os)).1,
        (session.step s (.normalPchScan arfcns timeout)).2 ++ (session.run
          (session.step s (.normalPchScan arfcns timeout)).1 (Session.callbacks os)).2) :=
    fun os => rfl
  constructor
  · rintro ⟨hstarts, _, _, hagain⟩
    have hidle : s.controller.pchScanRunning = false := by
      by_contra hstuck
      have hon : s.controller.pchScanRunning = true := by simpa using hstuck
      obtain ⟨hnone, hnil⟩ := Session.normalPchScan_stuck hon arfcns timeout
      rw [hrun, pchStarts_append, hnone, Session.run_callbacks_none (hnil.trans hout)] at hstarts
      exact hne (List.nil_perm.1 hstarts)
    refine ⟨hidle, ?_⟩
    by_contra hfail
    have hfailed : ∃ o ∈ outcomes, o.2 = true := by simpa using hfail
    subst hrev
    have hscan := (Session.normalPchScan_idle hsweep hout hidle arfcn queue timeout).2.2
    have hon := Session.run_batch_failed hscan hlen' hfailed
    have hnext := hagain [0] 0 (by simp)
    rw [hrun] at hnext
    rw [(Session.normalPchScan_stuck hon [0] 0).1] at hnext
    simp at hnext
  · rintro ⟨hidle, hall⟩
    subst hrev
    obtain ⟨hstart, hnone, hscan⟩ :=
      Session.normalPchScan_idle hsweep hout hidle arfcn queue timeout
    obtain ⟨hstarts, hresults, hpending, hout', hidle', hsweep'⟩ :=
      Session.run_batch_succeeded hscan hlen' hall
    refine ⟨?_, ?_, ?_, ?_⟩
    · rw [hrun, pchStarts_append, hstart, hstarts]
      exact (List.reverse_perm (arfcn :: queue)).symm
    · rw [hrun, pchResults_append, hnone, hpending]
      rfl
    · rw [hrun, pchResults_append, hnone, hresults, List.reverse_reverse]
      rfl
    · rw [hrun]
      intro arfcns' timeout' hne'
      obtain ⟨arfcn', queue', rfl⟩ := Session.exists_eq_reverse_cons hne'
      rw [(Session.normalPchScan_idle hsweep' hout' hidle' arfcn' queue' timeout').1]
      simp

theorem session_batch_completed_pair : (Session.init []).BatchCompleted [7, 8] 10
    [(nonHoppingScan, false), (nonHoppingScan, false)] :=
  (session_batch_completed_iff (Session.init []) [7, 8] 10
    [(nonHoppingScan, false), (nonHoppingScan, false)] rfl rfl (by decide) rfl).2
    ⟨rfl, by decide⟩

/-- The first scan fails, and the second is never started. -/
theorem session_batch_abandoned : ¬ ∀ (s : Session) (arfcns : List ℤ) (timeout : ℤ)
    (outcomes : List (PchResult × Bool)), s.controller.sweepActive = false →
    s.outstanding = [] → arfcns ≠ [] → outcomes.length = arfcns.length →
    s.BatchCompleted arfcns timeout outcomes := by
  intro h
  have hbatch := h (Session.init []) [7, 8] 10 [(nonHoppingScan, true), (nonHoppingScan, false)]
    rfl rfl (by decide) rfl
  exact absurd hbatch.starts (by decide)

end ImsiCatcher

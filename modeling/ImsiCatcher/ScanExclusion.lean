import ImsiCatcher.PchScanStarts

/-!
# Sweeps and user requests beside an outstanding scan

At most one PCH scan is outstanding, and the running flag is set while it is. A scan that
is started by the callback of another leaves `pch_active` cleared behind it, so that a sweep
may join it; a user request that meets an outstanding scan is taken for its own.
-/

namespace ImsiCatcher

namespace Session

/-! ### Sweep and PCH scans exclude each other -/

structure Exclusive (s : Session) : Prop where
  single : s.outstanding.length ≤ 1
  running : s.outstanding ≠ [] → s.controller.pchScanRunning = true
  active : s.outstanding ≠ [] → s.controller.pchActive = true
  sweep : s.controller.sweepActive = true → s.outstanding = []

/-- A successful callback of a normal scan finds no ARFCN that is still queued. -/
def LastOfBatch (s : Session) : SessionEvent → Prop
  | .pchDone thread _ false => thread < s.outstanding.length →
      s.controller.userModeFlag = false → s.controller.remainingPchArfcns = []
  | _ => True

instance (s : Session) (e : SessionEvent) : Decidable (s.LastOfBatch e) := by
  unfold LastOfBatch
  split <;> infer_instance

theorem exclusive_quiet {s : Session} (hs : s.Exclusive) {r : Controller × List ControllerCall}
    (hcalls : pchStarts r.2 = []) (hrun : r.1.pchScanRunning = s.controller.pchScanRunning)
    (hactive : s.controller.pchActive = true → r.1.pchActive = true)
    (hsweep : r.1.sweepActive = true →
      s.controller.sweepActive = true ∨ s.controller.pchActive = false) :
    (s.moved r).1.Exclusive := by
  obtain ⟨hs1, hs2, hs3, hs4⟩ := hs
  unfold moved
  simp only [hcalls, List.append_nil]
  refine ⟨hs1, fun h => hrun.trans (hs2 h), fun h => hactive (hs3 h), ?_⟩
  intro h
  rcases hsweep h with h | h
  · exact hs4 h
  · by_contra hne
    have hon := hs3 hne
    rw [h] at hon
    exact Bool.false_ne_true hon

/-- A scan that is started while none runs is the only one. -/
theorem exclusive_started {s : Session} (hs : s.Exclusive) {r : Controller × List ControllerCall}
    {arfcn : ℤ} (hcalls : pchStarts r.2 = [arfcn]) (hfree : s.controller.pchScanRunning = false)
    (hrun : r.1.pchScanRunning = true) (hactive : r.1.pchActive = true)
    (hsweep : r.1.sweepActive = false) : (s.moved r).1.Exclusive := by
  have hnil : s.outstanding = [] := by
    by_contra h
    have hon := hs.running h
    rw [hfree] at hon
    exact Bool.false_ne_true hon
  unfold moved
  simp only [hcalls, hnil, List.nil_append]
  refine ⟨le_rfl, fun _ => hrun, fun _ => hactive, ?_⟩
  intro h
  rw [hsweep] at h
  exact absurd h Bool.false_ne_true

theorem exclusive_doNext {s : Session} (hs : s.Exclusive) {c : Controller}
    (hsweep : c.sweepActive = false) (hactive : c.pchActive = true)
    (hrun : c.pchScanRunning = s.controller.pchScanRunning) :
    (s.moved c.doNextPchScan).1.Exclusive := by
  rcases c.doNextPchScan_cases with
    ⟨calls, hcalls, _, _, heq⟩ | ⟨arfcn, calls, hcalls, _, hfree, _, heq⟩
  · rw [heq]
    refine exclusive_quiet hs hcalls hrun (fun _ => hactive) ?_
    intro h
    exact absurd (hsweep.symm.trans h) Bool.false_ne_true
  · rw [heq]
    exact exclusive_started hs hcalls (hrun ▸ hfree) rfl hactive hsweep

theorem exclusive_userPchScan {s : Session} (hs : s.Exclusive) (provider : Text) :
    (s.moved (s.controller.userPchScan provider)).1.Exclusive := by
  obtain ⟨hsweep, hactive, _, hcalls⟩ := s.controller.userPchScan_cases provider
  rcases hcalls with ⟨hcalls, hrun⟩ | ⟨station, _, hcalls, hoff, hfree, hrun, hon⟩
  · exact exclusive_quiet hs hcalls hrun hactive fun h => Or.inl (hsweep ▸ h)
  · exact exclusive_started hs hcalls hfree hrun hon (hsweep.trans hoff)

theorem exclusive_pchDone {s : Session} (hs : s.Exclusive) {thread : ℕ} {values : PchResult}
    {failed : Bool} (he : s.LastOfBatch (.pchDone thread values failed)) :
    (s.pchDone thread values failed).1.Exclusive := by
  unfold pchDone
  cases hthread : s.outstanding[thread]? with
  | none => exact hs
  | some arfcn =>
    obtain ⟨hlt, _⟩ := List.getElem?_eq_some_iff.1 hthread
    have hlen := hs.single
    have hne : s.outstanding ≠ [] := List.ne_nil_of_length_pos (by omega)
    have herase : s.outstanding.eraseIdx thread = [] := by
      apply List.eq_nil_of_length_eq_zero
      rw [List.length_eraseIdx_of_lt hlt]
      omega
    have hstarts : pchStarts (s.controller.pchDoneCallback arfcn values failed).2 = [] := by
      by_contra h
      obtain ⟨hmode, hqueue, hfrom⟩ := Controller.pchDoneCallback_starts h
      rcases hfrom with hsucc | hrun
      · subst hsucc
        exact hqueue (he hlt hmode)
      · rw [hs.running hne] at hrun
        exact Bool.false_ne_true hrun.symm
    unfold moved
    simp only [herase, hstarts, List.append_nil]
    have hnil : ∀ s' : Session, s'.outstanding = [] → s'.Exclusive := by
      intro s' h
      exact ⟨by simp [h], fun h' => absurd h h', fun h' => absurd h h', fun _ => h⟩
    exact hnil _ rfl

theorem exclusive_step {s : Session} (hs : s.Exclusive) {e : SessionEvent}
    (he : s.LastOfBatch e) : (s.step e).1.Exclusive := by
  cases e with
  | startScan =>
    simp only [step, Controller.startScan]
    split
    · exact exclusive_quiet hs rfl rfl id Or.inl
    · rename_i hactive
      exact exclusive_quiet hs rfl rfl id fun _ => Or.inr (by simpa using hactive)
  | stopScan =>
    simp only [step, Controller.stopScan]
    split
    · refine exclusive_quiet hs rfl rfl id ?_
      intro h
      exact absurd h (by simp)
    · exact exclusive_quiet hs rfl rfl id Or.inl
  | normalPchScan arfcns timeout =>
    simp only [step, Controller.normalPchScan]
    split
    · exact exclusive_quiet hs rfl rfl id Or.inl
    · rename_i hsweep
      refine exclusive_doNext hs ?_ rfl rfl
      simpa using hsweep
  | userPchScan provider =>
    have hasked : ({ s with asked := s.strongestArfcn provider } : Session).Exclusive :=
      ⟨hs.single, hs.running, hs.active, hs.sweep⟩
    exact exclusive_userPchScan hasked provider
  | pchDone thread values failed => exact exclusive_pchDone hs he
  | foundBaseStation sighting verdict => exact exclusive_quiet hs rfl rfl id Or.inl
  | triggerEvaluation verdict => exact exclusive_quiet hs rfl rfl id Or.inl
  | updateWithWebServices answers =>
    refine exclusive_quiet ?_ (Controller.updateWithWebServices_starts _ answers) rfl id Or.inl
    exact ⟨hs.single, hs.running, hs.active, hs.sweep⟩
  | settings useGoogle useOpenCellId useLocalDb pchIntegration =>
    exact exclusive_quiet hs rfl rfl id Or.inl

end Session

/-- A sweep and a PCH scan are never under way together, as long as no successful callback
of a batch finds ARFCNs that are still queued. -/
theorem session_sweep_excludes_pch (stations : List BaseStationInformation)
    (es : List SessionEvent) (hes : session.Along Session.LastOfBatch (Session.init stations) es) :
    ¬((session.run (Session.init stations) es).1.controller.sweepActive = true ∧
      (session.run (Session.init stations) es).1.outstanding ≠ []) := by
  have hinit : (Session.init stations).Exclusive :=
    ⟨Nat.zero_le 1, fun h => absurd rfl h, fun h => absurd rfl h, fun _ => rfl⟩
  have hrun := session.invariant_run (P := Session.LastOfBatch) (I := Session.Exclusive)
    (fun _ _ hs he => Session.exclusive_step hs he) hinit hes
  rintro ⟨hsweep, hne⟩
  exact hne (hrun.sweep hsweep)

theorem session_sweep_excludes_pch_after_scan :
    (session.run (Session.init []) [.normalPchScan [7] 10, .pchDone 0 nonHoppingScan false,
      .startScan]).1.controller.sweepActive = true ∧
    ¬((session.run (Session.init []) [.normalPchScan [7] 10, .pchDone 0 nonHoppingScan false,
      .startScan]).1.controller.sweepActive = true ∧
      (session.run (Session.init []) [.normalPchScan [7] 10, .pchDone 0 nonHoppingScan false,
        .startScan]).1.outstanding ≠ []) :=
  ⟨by decide, session_sweep_excludes_pch [] _ (by decide)⟩

/-- The callback of the first scan starts the second and clears `pch_active` behind it. -/
theorem session_sweep_meets_pch : ¬ ∀ (stations : List BaseStationInformation)
    (es : List SessionEvent),
    ¬((session.run (Session.init stations) es).1.controller.sweepActive = true ∧
      (session.run (Session.init stations) es).1.outstanding ≠ []) := by
  intro h
  exact h [] [.normalPchScan [7, 8] 10, .pchDone 0 nonHoppingScan false, .startScan] (by decide)

namespace Session

/-! ### A verdict is about the station that was asked for -/

def Answering (s : Session) : Prop :=
  s.controller.userModeFlag = true → ∀ arfcn ∈ s.outstanding, s.asked = some arfcn

/-- A request that finds the user mode on, or switches it on, asks for the ARFCN of every
scan that is outstanding. -/
def AsksForOutstanding (s : Session) : SessionEvent → Prop
  | .userPchScan provider =>
    (s.controller.userModeFlag = true ∨ provider ≠ [] ∧ s.controller.sweepActive = false) →
      ∀ arfcn ∈ s.outstanding, s.strongestArfcn provider = some arfcn
  | _ => True

instance (s : Session) (e : SessionEvent) : Decidable (s.AsksForOutstanding e) := by
  unfold AsksForOutstanding
  split <;> infer_instance

theorem answering_quiet {s : Session} (hs : s.Answering) {r : Controller × List ControllerCall}
    (hcalls : pchStarts r.2 = []) (hmode : r.1.userModeFlag = s.controller.userModeFlag) :
    (s.moved r).1.Answering := by
  unfold moved Answering
  simp only [hcalls, List.append_nil]
  intro h
  exact hs (hmode ▸ h)

theorem answering_userPchScan {s : Session} {provider : Text}
    (hs : s.controller.userModeFlag = true ∨ provider ≠ [] ∧ s.controller.sweepActive = false →
      ∀ arfcn ∈ s.outstanding, s.asked = some arfcn)
    (hasked : s.asked = s.strongestArfcn provider) :
    (s.moved (s.controller.userPchScan provider)).1.Answering := by
  obtain ⟨_, _, hmode, hcalls⟩ := s.controller.userPchScan_cases provider
  intro hon arfcn harfcn
  have hnow : ∀ a ∈ s.outstanding, s.asked = some a := hs (hmode hon)
  rcases List.mem_append.1 harfcn with h | h
  · exact hnow arfcn h
  -- the scan that the request starts is that of the strongest station
  rcases hcalls with ⟨hnone, _⟩ | ⟨station, hstation, hone, _⟩
  · rw [hnone] at h
    exact absurd h List.not_mem_nil
  · rw [hone, List.mem_singleton] at h
    change s.asked = _
    rw [hasked, strongestArfcn, hstation, h]
    rfl

theorem answering_pchDone {s : Session} (hs : s.Answering) (thread : ℕ) (values : PchResult)
    (failed : Bool) : (s.pchDone thread values failed).1.Answering := by
  unfold pchDone
  cases s.outstanding[thread]? with
  | none => exact hs
  | some arfcn =>
    have hflags := s.controller.pchDoneCallback_flags arfcn values failed
    have hstarts : s.controller.userModeFlag = true →
        pchStarts (s.controller.pchDoneCallback arfcn values failed).2 = [] := by
      intro hmode
      by_contra h
      have hoff := (Controller.pchDoneCallback_starts h).1
      rw [hmode] at hoff
      exact Bool.false_ne_true hoff.symm
    intro hmode a ha
    have hmode' : s.controller.userModeFlag = true := hflags.2 ▸ hmode
    unfold moved at ha
    simp only [hstarts hmode', List.append_nil] at ha
    exact hs hmode' a (List.mem_of_mem_eraseIdx ha)

theorem answering_step {s : Session} (hs : s.Answering) {e : SessionEvent}
    (he : s.AsksForOutstanding e) : (s.step e).1.Answering := by
  cases e with
  | startScan =>
    simp only [step, Controller.startScan]
    split <;> exact answering_quiet hs rfl rfl
  | stopScan =>
    simp only [step, Controller.stopScan]
    split <;> exact answering_quiet hs rfl rfl
  | normalPchScan arfcns timeout =>
    simp only [step, Controller.normalPchScan]
    split
    · exact answering_quiet hs rfl rfl
    · intro hmode
      have hflags := Controller.doNextPchScan_flags
        { s.controller with
          pchActive := true
          accumulatedPchResults := []
          userModeFlag := false
          remainingPchArfcns := arfcns
          pchTimeout := timeout }
      exact absurd (hflags.2.2.symm.trans hmode) (by simp)
  | userPchScan provider => exact answering_userPchScan he rfl
  | pchDone thread values failed => exact answering_pchDone hs thread values failed
  | foundBaseStation sighting verdict => exact answering_quiet hs rfl rfl
  | triggerEvaluation verdict => exact answering_quiet hs rfl rfl
  | updateWithWebServices answers =>
    exact answering_quiet hs (Controller.updateWithWebServices_starts _ answers) rfl
  | settings useGoogle useOpenCellId useLocalDb pchIntegration =>
    exact answering_quiet hs rfl rfl

end Session

/-- The image that a finished scan sets is about the station of the latest user request, as
long as no such request meets a scan of another ARFCN. -/
theorem session_verdict_asked (stations : List BaseStationInformation) (es : List SessionEvent)
    (thread : ℕ) (values : PchResult) (image : Option RuleResult) (arfcn : ℤ)
    (hes : session.Along Session.AsksForOutstanding (Session.init stations) es)
    (hthread : (session.run (Session.init stations) es).1.outstanding[thread]? = some arfcn)
    (himage : .setUserImage image ∈
      (session.step (session.run (Session.init stations) es).1 (.pchDone thread values false)).2) :
    (session.run (Session.init stations) es).1.asked = some arfcn := by
  have hrun := session.invariant_run (P := Session.AsksForOutstanding) (I := Session.Answering)
    (fun _ _ hs he => Session.answering_step hs he) (fun h => absurd h (by simp [Session.init])) hes
  have hmode : (session.run (Session.init stations) es).1.controller.userModeFlag = true := by
    by_contra hoff
    change _ ∈ (Session.pchDone _ thread values false).2 at himage
    unfold Session.pchDone at himage
    rw [hthread] at himage
    simp only [Session.moved, Controller.pchDoneCallback, Controller.pchSucceeded,
      Controller.integratePch, hoff, Bool.false_eq_true, if_false, List.mem_cons, reduceCtorEq,
      false_or] at himage
    exact Controller.advanceBatch_image _ image himage
  exact hrun hmode arfcn (List.mem_of_getElem? hthread)

def judgedStation (provider : String) (arfcn : ℤ) : BaseStationInformation :=
  { provider := provider.toList, arfcn := arfcn, rxlev := -60, evaluation := some .ok }

def judgedStations : List BaseStationInformation := [judgedStation "O2" 7, judgedStation "E-Plus" 8]

theorem session_verdict_asked_once :
    (session.run (Session.init judgedStations) [.userPchScan "O2".toList]).1.asked = some 7 :=
  session_verdict_asked judgedStations [.userPchScan "O2".toList] 0 nonHoppingScan
    (some .critical) 7 (by decide) (by decide) (by decide)

/-- The second request is dropped, and takes the scan of the first for its own. -/
theorem session_verdict_of_other : ¬ ∀ (stations : List BaseStationInformation)
    (es : List SessionEvent) (thread : ℕ) (values : PchResult) (image : Option RuleResult)
    (arfcn : ℤ),
    (session.run (Session.init stations) es).1.outstanding[thread]? = some arfcn →
    .setUserImage image ∈
      (session.step (session.run (Session.init stations) es).1 (.pchDone thread values false)).2 →
    (session.run (Session.init stations) es).1.asked = some arfcn := by
  intro h
  have hother := h judgedStations [.userPchScan "O2".toList, .userPchScan "E-Plus".toList] 0
    nonHoppingScan (some .critical) 7 (by decide) (by decide)
  exact absurd hother (by decide)

end ImsiCatcher

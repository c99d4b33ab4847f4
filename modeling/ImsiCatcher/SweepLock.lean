import ImsiCatcher.ScanExclusion

/-!
# What locks the sweep out

`start_scan` is refused while `pch_active` is set. The flag is raised by every request that
finds no sweep, before the request is looked at, and is lowered by the completion callback
alone. A request that brings no scan under way and leaves none queued therefore locks the
sweep out, until a later request brings one under way.
-/

namespace ImsiCatcher

namespace Session

/-- With nothing outstanding and nothing queued, `start_scan` is accepted. -/
def NotLockedOut (s : Session) : Prop :=
  s.outstanding = [] → s.controller.remainingPchArfcns = [] →
    s.controller.pchActive = false ∧ .startScanning ∈ (s.step .startScan).2

/-- A request that is admitted meets an outstanding scan, starts one, or leaves an ARFCN
queued behind the running flag. -/
def StaysOpen (s : Session) : SessionEvent → Prop
  | .normalPchScan arfcns _ => s.controller.sweepActive = false →
      s.outstanding ≠ [] ∨ arfcns ≠ [] ∧ s.controller.pchScanRunning = false ∨ 2 ≤ arfcns.length
  | .userPchScan provider => s.controller.sweepActive = false →
      s.outstanding ≠ [] ∨
      if provider ≠ [] ∧ (strongestStation s.controller.stations provider).any
          (·.evaluation = some .ok) then s.controller.pchScanRunning = false
      else s.controller.remainingPchArfcns ≠ []
  | _ => True

instance (s : Session) : (e : SessionEvent) → Decidable (s.StaysOpen e)
  | .normalPchScan _ _ => inferInstanceAs (Decidable (_ → _))
  | .userPchScan _ => inferInstanceAs (Decidable (_ → _))
  | .startScan | .stopScan | .pchDone .. | .foundBaseStation .. | .triggerEvaluation _
  | .updateWithWebServices _ | .settings .. => .isTrue trivial

theorem notLockedOut_iff (s : Session) : s.NotLockedOut ↔
    (s.outstanding = [] → s.controller.remainingPchArfcns = [] →
      s.controller.pchActive = false) := by
  constructor
  · intro h hout hqueue
    exact (h hout hqueue).1
  · intro h hout hqueue
    have hoff := h hout hqueue
    refine ⟨hoff, ?_⟩
    simp [step, moved, Controller.startScan, hoff]

theorem notLockedOut_of_quiet {s : Session} (hs : s.NotLockedOut)
    {r : Controller × List ControllerCall} (hcalls : pchStarts r.2 = [])
    (hqueue : r.1.remainingPchArfcns = s.controller.remainingPchArfcns)
    (hactive : r.1.pchActive = s.controller.pchActive) : (s.moved r).1.NotLockedOut := by
  rw [notLockedOut_iff] at hs ⊢
  unfold moved
  simp only [hcalls, List.append_nil, hqueue, hactive]
  exact hs

/-- A move that raises `pch_active` keeps the sweep open just when it leaves something
outstanding or queued. -/
theorem notLockedOut_raised {s : Session} {r : Controller × List ControllerCall}
    (hactive : r.1.pchActive = true) : (s.moved r).1.NotLockedOut ↔
      s.outstanding ≠ [] ∨ pchStarts r.2 ≠ [] ∨ r.1.remainingPchArfcns ≠ [] := by
  rw [notLockedOut_iff]
  unfold moved
  simp only [hactive, List.append_eq_nil_iff, Bool.true_eq_false]
  tauto

/-- The next scan of a queue is started, or the queue loses its last and the rest stays. -/
theorem doNextPchScan_leaves (c : Controller) :
    (pchStarts c.doNextPchScan.2 ≠ [] ∨ c.doNextPchScan.1.remainingPchArfcns ≠ []) ↔
      c.remainingPchArfcns ≠ [] ∧ c.pchScanRunning = false ∨ 2 ≤ c.remainingPchArfcns.length := by
  have hlong : c.remainingPchArfcns.dropLast ≠ [] ↔ 2 ≤ c.remainingPchArfcns.length := by
    rw [← List.length_pos_iff_ne_nil, List.length_dropLast]
    omega
  rcases c.doNextPchScan_cases with
    ⟨calls, hcalls, _, hidle, heq⟩ | ⟨arfcn, calls, hcalls, _, hfree, hlast, heq⟩
  · rw [heq]
    dsimp only
    rw [hcalls, hlong]
    rcases hidle with hrun | hnil
    · simp [hrun]
    · simp [hnil]
  · have hne : c.remainingPchArfcns ≠ [] := by
      intro h
      rw [h] at hlast
      exact absurd hlast (by simp)
    rw [heq]
    dsimp only
    rw [hcalls]
    simp [hne, hfree]

theorem notLockedOut_normalPchScan {s : Session} (hs : s.NotLockedOut) (arfcns : List ℤ)
    (timeout : ℤ) : (s.step (.normalPchScan arfcns timeout)).1.NotLockedOut ↔
      s.StaysOpen (.normalPchScan arfcns timeout) := by
  simp only [step, Controller.normalPchScan, StaysOpen]
  cases hsweep : s.controller.sweepActive with
  | true =>
    rw [if_pos rfl]
    simp only [Bool.true_eq_false, false_imp_iff, iff_true]
    exact notLockedOut_of_quiet hs rfl rfl rfl
  | false =>
    rw [if_neg Bool.false_ne_true, Controller.scanPch]
    rw [notLockedOut_raised (Controller.doNextPchScan_flags _).2.1, doNextPchScan_leaves]
    simp

theorem notLockedOut_userPchScan {s : Session} (hs : s.NotLockedOut) (provider : Text) :
    (s.moved (s.controller.userPchScan provider)).1.NotLockedOut ↔
      s.StaysOpen (.userPchScan provider) := by
  simp only [StaysOpen, Controller.userPchScan]
  cases hsweep : s.controller.sweepActive with
  | true =>
    rw [if_pos rfl]
    simp only [Bool.true_eq_false, false_imp_iff, iff_true]
    exact notLockedOut_of_quiet hs rfl rfl rfl
  | false =>
    rw [if_neg Bool.false_ne_true]
    by_cases hprovider : provider = []
    · rw [if_pos hprovider, notLockedOut_raised rfl]
      simp [hprovider, pchStarts]
    rw [if_neg hprovider]
    cases hstation : strongestStation s.controller.stations provider with
    | none =>
      dsimp only
      rw [notLockedOut_raised rfl]
      simp [pchStarts]
    | some station =>
      by_cases hok : station.evaluation = some .ok
      · dsimp only
        rw [if_pos hok, notLockedOut_raised (Controller.doNextPchScan_flags _).2.1]
        change _ ∨ pchStarts (Controller.doNextPchScan _).2 ≠ [] ∨ _ ↔ _
        rw [doNextPchScan_leaves]
        simp [hprovider, hok]
      · dsimp only
        rw [if_neg hok, notLockedOut_raised rfl]
        simp [pchStarts, hok]

theorem notLockedOut_pchDone {s : Session} (hs : s.NotLockedOut) (thread : ℕ)
    (values : PchResult) (failed : Bool) : (s.pchDone thread values failed).1.NotLockedOut := by
  unfold pchDone
  cases s.outstanding[thread]? with
  | none => exact hs
  | some arfcn =>
    rw [notLockedOut_iff]
    intro _ _
    cases failed <;> rfl

theorem notLockedOut_step {s : Session} (hs : s.NotLockedOut) (e : SessionEvent) :
    (s.step e).1.NotLockedOut ↔ s.StaysOpen e := by
  cases e with
  | startScan =>
    refine iff_of_true ?_ trivial
    simp only [step, Controller.startScan]
    split <;> exact notLockedOut_of_quiet hs rfl rfl rfl
  | stopScan =>
    refine iff_of_true ?_ trivial
    simp only [step, Controller.stopScan]
    split <;> exact notLockedOut_of_quiet hs rfl rfl rfl
  | normalPchScan arfcns timeout => exact notLockedOut_normalPchScan hs arfcns timeout
  | userPchScan provider =>
    have hasked : ({ s with asked := s.strongestArfcn provider } : Session).NotLockedOut := by
      rw [notLockedOut_iff] at hs ⊢
      exact hs
    exact notLockedOut_userPchScan hasked provider
  | pchDone thread values failed =>
    exact iff_of_true (notLockedOut_pchDone hs thread values failed) trivial
  | foundBaseStation sighting verdict =>
    exact iff_of_true (notLockedOut_of_quiet hs rfl rfl rfl) trivial
  | triggerEvaluation verdict =>
    exact iff_of_true (notLockedOut_of_quiet hs rfl rfl rfl) trivial
  | updateWithWebServices answers =>
    refine iff_of_true ?_ trivial
    rw [notLockedOut_iff] at hs ⊢
    simp only [step, updateWithWebServices, moved, Controller.updateWithWebServices_starts,
      List.append_nil]
    exact hs
  | settings useGoogle useOpenCellId useLocalDb pchIntegration =>
    exact iff_of_true (notLockedOut_of_quiet hs rfl rfl rfl) trivial

end Session

/-- A session never locks its sweep out just when every request that it admits meets an
outstanding scan, starts one, or leaves an ARFCN queued. -/
theorem session_never_locked_out_iff (stations : List BaseStationInformation)
    (es : List SessionEvent) :
    (∀ n, (session.run (Session.init stations) (es.take n)).1.NotLockedOut) ↔
      session.Along Session.StaysOpen (Session.init stations) es := by
  have hinit : (Session.init stations).NotLockedOut := by
    rw [Session.notLockedOut_iff]
    exact fun _ _ => rfl
  exact session.reached_iff_along (P := Session.StaysOpen) (I := Session.NotLockedOut)
    (fun _ e hs => Session.notLockedOut_step hs e) hinit

/-- A request without a provider raises `pch_active` and asks for no scan. -/
theorem session_locked_out_by_request : ¬ ∀ (stations : List BaseStationInformation)
    (es : List SessionEvent), (session.run (Session.init stations) es).1.NotLockedOut := by
  intro h
  have hoff := (h [] [.userPchScan []] rfl rfl).1
  exact absurd hoff (by decide)

end ImsiCatcher

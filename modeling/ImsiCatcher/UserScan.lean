import ImsiCatcher.OrderStatistics
import ImsiCatcher.Session

/-!
# What a user request does

A user request goes by the stored verdict of the strongest station of the provider. A scan is
started for a station that is judged `Ok`, when none is marked as running, and any other
verdict is shown as it is.
-/

namespace ImsiCatcher

/-- The image that the window shows after the calls, if they set one. -/
def userImage (calls : List ControllerCall) : Option (Option RuleResult) :=
  (calls.filterMap fun | .setUserImage status => some status | _ => none).getLast?

/-- The station has the best reception among those of the provider. -/
structure IsStrongest (stations : List BaseStationInformation) (provider : Text)
    (station : BaseStationInformation) : Prop where
  mem : station ∈ stations
  ofProvider : station.provider = provider
  best : ∀ other ∈ stations, other.provider = provider → other.rxlev ≤ station.rxlev

theorem strongestStation_spec {stations : List BaseStationInformation} {provider : Text}
    (h : ∃ station ∈ stations, station.provider = provider ∧ -1000 < station.rxlev) :
    ∃ station, strongestStation stations provider = some station ∧
      IsStrongest stations provider station := by
  rcases OrderStatistics.keepLargest_cases (fun station : BaseStationInformation =>
    station.provider = provider) (·.rxlev) stations (-1000, none) with ⟨-, hall⟩ |
      ⟨station, hmem, hprovider, -, hkept, hbest⟩
  · obtain ⟨station, hmem, hprovider, hlevel⟩ := h
    exact absurd (hall station hmem hprovider) (not_le.2 hlevel)
  · exact ⟨station, congrArg (·.2) hkept, hmem, hprovider, hbest⟩

namespace Controller

/-- A request selects a strongest station of the provider and shows that it is critical, or
starts exactly the scan of it. -/
def AnswersRequest (c : Controller) (provider : Text) : Prop :=
  ∃ station, strongestStation c.stations provider = some station ∧
    IsStrongest c.stations provider station ∧
    (station.evaluation = some .critical →
      userImage (c.userPchScan provider).2 = some (some .critical) ∧
        pchStarts (c.userPchScan provider).2 = []) ∧
    (station.evaluation ≠ some .critical →
      pchStarts (c.userPchScan provider).2 = [station.arfcn])

variable {c : Controller} {provider : Text} {station : BaseStationInformation}

/-- What a request calls, by the verdict of the station that it selects. -/
theorem userPchScan_calls (hsweep : c.sweepActive = false) (hprovider : provider ≠ [])
    (hstation : strongestStation c.stations provider = some station) :
    (station.evaluation = some .ok ∧ pchStarts (c.userPchScan provider).2 =
      if c.pchScanRunning then [] else [station.arfcn]) ∨
    (station.evaluation ≠ some .ok ∧ (c.userPchScan provider).2 =
      [.setUserImage (some .ignore), .setUserImage station.evaluation]) := by
  have hoff : ¬c.sweepActive = true := by simp [hsweep]
  rw [userPchScan, if_neg hoff]
  dsimp only
  rw [if_neg hprovider, hstation]
  dsimp only
  by_cases hok : station.evaluation = some .ok
  · refine Or.inl ⟨hok, ?_⟩
    rw [if_pos hok, doNextPchScan]
    cases c.pchScanRunning <;> rfl
  · refine Or.inr ⟨hok, ?_⟩
    rw [if_neg hok]

theorem userPchScan_nil (hsweep : c.sweepActive = false) :
    (c.userPchScan []).2 = [.setUserImage none] := by
  rw [userPchScan, if_neg (by simp [hsweep]), if_pos rfl]

end Controller

/-- A request is answered as documented just when a provider is given, and its strongest station
is critical, or is judged `Ok` while no scan is marked as running. -/
theorem user_request_answered_iff (c : Controller) (provider : Text)
    (hsweep : c.sweepActive = false)
    (hlisted : ∃ station ∈ c.stations, station.provider = provider ∧ -1000 < station.rxlev) :
    c.AnswersRequest provider ↔ provider ≠ [] ∧
      ∃ station, strongestStation c.stations provider = some station ∧
        (station.evaluation = some .critical ∨
          station.evaluation = some .ok ∧ c.pchScanRunning = false) := by
  obtain ⟨station, hstation, hstrongest⟩ := strongestStation_spec hlisted
  rw [Controller.AnswersRequest]
  simp only [hstation, Option.some_inj, exists_eq_left', hstrongest, true_and]
  by_cases hprovider : provider = []
  · refine iff_of_false ?_ (fun h => h.1 hprovider)
    rintro ⟨hcritical, hother⟩
    rw [hprovider, Controller.userPchScan_nil hsweep] at hcritical hother
    by_cases heval : station.evaluation = some .critical
    · exact absurd (hcritical heval).1 (by decide)
    · exact absurd (hother heval) (by simp [pchStarts])
  rw [and_iff_right hprovider]
  rcases Controller.userPchScan_calls hsweep hprovider hstation with ⟨hok, hcalls⟩ | ⟨hok, hcalls⟩
  · have hne : station.evaluation ≠ some .critical := by simp [hok]
    rw [hcalls]
    cases c.pchScanRunning <;> simp [hok]
  · rw [hcalls]
    by_cases heval : station.evaluation = some .critical
    · simp [heval, userImage, pchStarts]
    · simp [heval, hok, pchStarts]

/-- A station that is judged critical, and a stronger one that is judged `Ok`. -/
def strongestIsOk : Controller where
  stations := [{ provider := "O2".toList, arfcn := 7, rxlev := -80, evaluation := some .critical },
    { provider := "O2".toList, arfcn := 8, rxlev := -60, evaluation := some .ok }]

theorem user_request_answered_iff_ok : strongestIsOk.AnswersRequest "O2".toList :=
  (user_request_answered_iff strongestIsOk "O2".toList rfl
    ⟨_, List.mem_cons_self, rfl, by decide⟩).2 ⟨by decide, _, rfl, Or.inr ⟨rfl, rfl⟩⟩

/-- The strongest station is judged `Warning`, and no scan of it is started. -/
theorem warning_is_not_scanned : ¬ ∀ (c : Controller) (provider : Text),
    c.sweepActive = false → c.pchActive = false → c.pchScanRunning = false →
    (∃ station ∈ c.stations, station.provider = provider ∧ -1000 < station.rxlev) →
    c.AnswersRequest provider := by
  intro h
  let c : Controller := { stations :=
    [{ provider := "O2".toList, arfcn := 7, rxlev := -60, evaluation := some .warning }] }
  obtain ⟨station, hstation, -, -, hother⟩ := h c "O2".toList rfl rfl rfl
    ⟨_, List.mem_cons_self, rfl, by decide⟩
  obtain rfl := Option.some_inj.1 hstation
  exact absurd (hother (by decide)) (by decide)

end ImsiCatcher

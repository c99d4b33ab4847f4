import ImsiCatcher.Evidence
import ImsiCatcher.SightingList
import Mathlib.Data.List.InsertIdx

/-!
# What a record showed when its scan was started

The result of a PCH scan is written into the record of its ARFCN when the scan is over, but it was
gathered from the start of the scan on. A history beside the session keeps what was shown for the
ARFCN of each outstanding scan when it was started, and for each record what was shown when the
scan was started that marked it.
-/

namespace ImsiCatcher

structure ScanHistory where
  begun : List (Option CellIdentity) := []
  since : ℤ → Option CellIdentity := fun _ => none

namespace Session

def ScanHistory.ended (h : ScanHistory) (s : Session) : SessionEvent → ScanHistory
  | .pchDone thread _ failed =>
    match s.outstanding[thread]? with
    | none => h
    | some arfcn =>
      { begun := h.begun.eraseIdx thread
        since := fun a =>
          if a = arfcn ∧ failed = false ∧ s.controller.pchIntegration then h.begun[thread]?.join
          else h.since a }
  | _ => h

/-- The scans that a step starts begin with what is shown then. -/
def scanHistory (s : Session) (h : ScanHistory) (e : SessionEvent) : ScanHistory :=
  { ScanHistory.ended h s e with
    begun := (ScanHistory.ended h s e).begun ++
      (pchStarts (s.step e).2).map (shown (s.step e).1.controller.stations) }

/-- A sighting of an ARFCN that was scanned, or for which a scan is outstanding, is of the cell
that is recorded. -/
def SightsScannedCell (s : Session) : SessionEvent → Prop
  | .foundBaseStation sighting _ =>
    (∀ item ∈ s.controller.stations, item.arfcn = sighting.station.arfcn →
      item.pchScanDone = true → item.identity = sighting.station.identity) ∧
    (sighting.station.arfcn ∈ s.outstanding →
      shown s.controller.stations sighting.station.arfcn = some sighting.station.identity)
  | _ => True

instance (s : Session) : (e : SessionEvent) → Decidable (s.SightsScannedCell e)
  | .foundBaseStation _ _ => inferInstanceAs (Decidable (_ ∧ _))
  | .startScan | .stopScan | .normalPchScan .. | .userPchScan _ | .pchDone .. | .triggerEvaluation _
  | .updateWithWebServices _ | .settings .. => .isTrue trivial

/-- What is shown is shown since the start of each scan that is outstanding, and since that of
the scan that marked the record. -/
structure ScanTied (s : Session) (h : ScanHistory) : Prop where
  distinct : (s.controller.stations.map (·.arfcn)).Nodup
  begun : h.begun = s.outstanding.map (shown s.controller.stations)
  since : ∀ r ∈ s.controller.stations, r.pchScanDone = true → h.since r.arfcn = some r.identity

theorem shown_congr {stations stations' : List BaseStationInformation}
    (h : stations'.map (fun r => (r.arfcn, r.identity)) =
      stations.map fun r => (r.arfcn, r.identity)) : shown stations' = shown stations := by
  have hfind : ∀ (l : List BaseStationInformation) (arfcn : ℤ), shown l arfcn =
      ((l.map fun r => (r.arfcn, r.identity)).find? fun p => p.1 = arfcn).map (·.2) := by
    intro l arfcn
    rw [List.find?_map, Option.map_map]
    rfl
  funext arfcn
  rw [hfind, hfind, h]

theorem shown_addStation (stations : List BaseStationInformation) (station : BaseStationInformation)
    (arfcn : ℤ) : shown (addStation stations station) arfcn =
      if station.arfcn = arfcn then some station.identity else shown stations arfcn := by
  have hrecord := recordOf_addStation stations station arfcn
  change (recordOf arfcn (addStation stations station)).map (·.identity) = _
  rw [hrecord]
  split
  · cases recordOf arfcn stations with
    | none => rfl
    | some item => rfl
  · rfl

section Steps
variable {s s' : Session} {h : ScanHistory}

/-- Where ARFCNs and cells are left as they are, what was shown for a scan is shown still. -/
theorem scanTied_of_same {outstanding started : List ℤ}
    (hdistinct : (s.controller.stations.map (·.arfcn)).Nodup)
    (hbegun : h.begun = outstanding.map (shown s.controller.stations))
    (houtstanding : s'.outstanding = outstanding ++ started)
    (hsame : s'.controller.stations.map (fun r => (r.arfcn, r.identity)) =
      s.controller.stations.map fun r => (r.arfcn, r.identity))
    (hsince : ∀ r ∈ s'.controller.stations, r.pchScanDone = true →
      h.since r.arfcn = some r.identity) :
    s'.ScanTied { h with begun := h.begun ++ started.map (shown s'.controller.stations) } := by
  have harfcns : s'.controller.stations.map (·.arfcn) = s.controller.stations.map (·.arfcn) := by
    have hfst := congrArg (List.map Prod.fst) hsame
    rwa [List.map_map, List.map_map] at hfst
  refine ⟨harfcns ▸ hdistinct, ?_, hsince⟩
  rw [houtstanding, List.map_append, hbegun, shown_congr hsame]

/-- A move that leaves the list alone may start scans. -/
theorem ScanTied.moved (ht : s.ScanTied h)
    (hsame : s'.controller.stations.map (fun r => (r.arfcn, r.identity, r.pchScanDone)) =
      s.controller.stations.map fun r => (r.arfcn, r.identity, r.pchScanDone))
    {started : List ℤ} (houtstanding : s'.outstanding = s.outstanding ++ started) :
    s'.ScanTied { h with begun := h.begun ++ started.map (shown s'.controller.stations) } := by
  refine scanTied_of_same ht.distinct ht.begun houtstanding ?_ fun r hr hdone => ?_
  · have hpairs := congrArg (List.map fun p : ℤ × CellIdentity × Bool => (p.1, p.2.1)) hsame
    rwa [List.map_map, List.map_map] at hpairs
  · have hmem : (r.arfcn, r.identity, r.pchScanDone) ∈
        s.controller.stations.map fun r => (r.arfcn, r.identity, r.pchScanDone) :=
      hsame ▸ List.mem_map_of_mem hr
    obtain ⟨item, hitem, heq⟩ := List.mem_map.1 hmem
    simp only [Prod.mk.injEq] at heq
    rw [← heq.1, ← heq.2.1]
    exact ht.since item hitem (heq.2.2.trans hdone)

theorem map_pchDoneCallback (c : Controller) (arfcn : ℤ) (values : PchResult) (failed : Bool) :
    (c.pchDoneCallback arfcn values failed).1.stations.map (fun r => (r.arfcn, r.identity)) =
      c.stations.map fun r => (r.arfcn, r.identity) := by
  rw [c.pchDoneCallback_stations arfcn values failed]
  split
  · rfl
  · exact c.map_integratePch arfcn values fun r r' harfcn hid => by rw [harfcn, hid]

/-- A callback marks a record with what was shown when its scan was started. -/
theorem since_pchDoneCallback (ht : s.ScanTied h) {thread : ℕ} {arfcn : ℤ}
    (hthread : s.outstanding[thread]? = some arfcn) (values : PchResult) (failed : Bool)
    {r' : BaseStationInformation}
    (hr' : r' ∈ (s.controller.pchDoneCallback arfcn values failed).1.stations)
    (hdone : r'.pchScanDone = true) :
    (if r'.arfcn = arfcn ∧ failed = false ∧ s.controller.pchIntegration = true then
      h.begun[thread]?.join else h.since r'.arfcn) = some r'.identity := by
  rw [s.controller.pchDoneCallback_stations arfcn values failed] at hr'
  cases failed with
  | true =>
    rw [if_neg fun hthis => absurd hthis.2.1 (by simp)]
    exact ht.since r' hr' hdone
  | false =>
    have hbegun : h.begun[thread]? = some (shown s.controller.stations arfcn) := by
      rw [ht.begun, List.getElem?_map, hthread, Option.map_some]
    obtain ⟨r, hr, harfcn, hid, -, hmark⟩ := Controller.mem_integratePch hr'
    rw [harfcn, hid, hbegun]
    by_cases hthis : r.arfcn = arfcn ∧ s.controller.pchIntegration = true
    · rw [if_pos ⟨hthis.1, rfl, hthis.2⟩, ← hthis.1]
      exact shown_eq_some ht.distinct hr
    · rw [if_neg fun h => hthis ⟨h.1, h.2.2⟩]
      exact ht.since r hr ((hmark hdone).resolve_left hthis)

theorem scanTied_pchDone (ht : s.ScanTied h) (thread : ℕ) (values : PchResult) (failed : Bool) :
    (s.pchDone thread values failed).1.ScanTied
      (s.scanHistory h (.pchDone thread values failed)) := by
  have hhistory : s.scanHistory h (.pchDone thread values failed) =
      { ScanHistory.ended h s (.pchDone thread values failed) with
        begun := (ScanHistory.ended h s (.pchDone thread values failed)).begun ++
          (pchStarts (s.pchDone thread values failed).2).map
            (shown (s.pchDone thread values failed).1.controller.stations) } := rfl
  rw [hhistory]
  cases hthread : s.outstanding[thread]? with
  | none =>
    have hended : ScanHistory.ended h s (.pchDone thread values failed) = h := by
      rw [ScanHistory.ended, hthread]
    have hnone : s.pchDone thread values failed = (s, []) := by rw [pchDone, hthread]
    rw [hended, hnone]
    exact ht.moved rfl (List.append_nil _).symm
  | some arfcn =>
    have herased : h.begun.eraseIdx thread =
        (s.outstanding.eraseIdx thread).map (shown s.controller.stations) := by
      rw [ht.begun, List.eraseIdx_map]
    rw [ScanHistory.ended, pchDone, hthread]
    exact scanTied_of_same ht.distinct herased rfl
      (map_pchDoneCallback s.controller arfcn values failed)
      fun r' hr' hdone => since_pchDoneCallback ht hthread values failed hr' hdone

theorem map_evaluate (c : Controller) (verdict : ℤ → RuleResult) :
    (c.evaluate verdict).stations.map (fun r => (r.arfcn, r.identity, r.pchScanDone)) =
      c.stations.map fun r => (r.arfcn, r.identity, r.pchScanDone) := by
  rw [Controller.evaluate, List.map_map]
  rfl

/-- A sighting leaves what is shown for the ARFCNs of outstanding scans. -/
theorem scanTied_foundBaseStation (ht : s.ScanTied h) {sighting : Sighting}
    {verdict : ℤ → RuleResult} (he : s.SightsScannedCell (.foundBaseStation sighting verdict)) :
    (s.step (.foundBaseStation sighting verdict)).1.ScanTied
      (s.scanHistory h (.foundBaseStation sighting verdict)) := by
  have hadded : ({ s with controller := { s.controller with
      stations := addStation s.controller.stations sighting.station } } : Session).ScanTied h := by
    refine ⟨nodup_addStation ht.distinct _, ?_, fun r hr hdone => ?_⟩
    · rw [ht.begun]
      refine List.map_congr_left fun arfcn harfcn => ?_
      change _ = shown (addStation s.controller.stations sighting.station) arfcn
      rw [shown_addStation]
      by_cases hthis : sighting.station.arfcn = arfcn
      · rw [if_pos hthis, ← hthis]
        exact he.2 (hthis ▸ harfcn)
      · rw [if_neg hthis]
    · rcases mem_addStation hr with hold | rfl | ⟨item, hitem, harfcn, rfl⟩
      · exact ht.since r hold hdone
      · exact absurd (sighting.notScanned.symm.trans hdone) (by simp)
      · have hid : item.identity = sighting.station.identity := he.1 item hitem harfcn hdone
        exact (ht.since item hitem hdone).trans (congrArg some hid)
  exact hadded.moved (map_evaluate _ verdict) rfl

theorem scanTied_step (ht : s.ScanTied h) {e : SessionEvent} (he : s.SightsScannedCell e) :
    (s.step e).1.ScanTied (s.scanHistory h e) := by
  have hleft : ∀ {c : Controller}, s.controller.Undisturbed c →
      c.stations.map (fun r => (r.arfcn, r.identity, r.pchScanDone)) =
        s.controller.stations.map fun r => (r.arfcn, r.identity, r.pchScanDone) :=
    fun hc => congrArg _ hc.stations
  cases e with
  | startScan => exact ht.moved (hleft (Controller.startScan_undisturbed _)) rfl
  | stopScan => exact ht.moved (hleft (Controller.stopScan_undisturbed _)) rfl
  | normalPchScan arfcns timeout =>
    exact ht.moved (hleft (Controller.normalPchScan_undisturbed _ arfcns timeout)) rfl
  | userPchScan provider =>
    exact ht.moved (hleft (Controller.userPchScan_undisturbed _ provider)) rfl
  | pchDone thread values failed => exact scanTied_pchDone ht thread values failed
  | foundBaseStation sighting verdict => exact scanTied_foundBaseStation ht he
  | triggerEvaluation verdict => exact ht.moved (map_evaluate _ verdict) rfl
  | updateWithWebServices answers =>
    refine ht.moved (s.controller.map_updateWithWebServices answers fun r r' hfoot => ?_) rfl
    obtain ⟨harfcn, hid, hpch⟩ := BaseStationInformation.footing_eq hfoot
    rw [harfcn, hid, hpch]
  | settings useGoogle useOpenCellId useLocalDb pchIntegration =>
    have hsame : (s.step (.settings useGoogle useOpenCellId useLocalDb
        pchIntegration)).1.controller.stations = s.controller.stations := rfl
    exact ht.moved (congrArg _ hsame) rfl

end Steps

end Session

/-- A record that is marked as scanned shows what it showed when the scan was started, as long as
no sighting of an ARFCN that was or is being scanned is of another cell. -/
theorem session_scan_tied (es : List SessionEvent)
    (hes : session.Along Session.SightsScannedCell {} es) :
    ∀ r ∈ (session.run {} es).1.controller.stations, r.pchScanDone = true →
      ((session.withHistory Session.scanHistory).run ({}, {}) es).1.2.since r.arfcn =
        some r.identity := by
  have hinit : ({} : Session).ScanTied {} :=
    ⟨List.nodup_nil, rfl, fun r hr => absurd hr List.not_mem_nil⟩
  have htied := (session.withHistory Session.scanHistory).invariant_run
    (P := fun p e => Session.SightsScannedCell p.1 e) (I := fun p => p.1.ScanTied p.2)
    (fun _ _ ht he => Session.scanTied_step ht he) hinit
    (session.withHistory_along Session.scanHistory hes {})
  rw [(session.withHistory_run Session.scanHistory {} {} es).1]
  exact htied.since

/-- A cell is sighted before its scan is started, while it goes on and when it is over. -/
def scanRun (cell : ℤ) : List SessionEvent :=
  [.settings false false false true, .foundBaseStation (sightingOf 7 100) fun _ => .ok,
    .normalPchScan [7] 10, .foundBaseStation (sightingOf 7 cell) fun _ => .ok,
    .pchDone 0 nonHoppingScan false, .foundBaseStation (sightingOf 7 cell) fun _ => .ok]

/-- Where another cell is sighted while the scan goes on, its record is marked with the scan. -/
theorem session_scan_tied_again :
    (∀ r ∈ (session.run {} (scanRun 100)).1.controller.stations, r.pchScanDone = true →
      ((session.withHistory Session.scanHistory).run ({}, {}) (scanRun 100)).1.2.since r.arfcn =
        some r.identity) ∧
    (∃ r ∈ (session.run {} (scanRun 100)).1.controller.stations, r.pchScanDone = true) ∧
    ¬ ∀ r ∈ (session.run {} (scanRun 200)).1.controller.stations, r.pchScanDone = true →
      ((session.withHistory Session.scanHistory).run ({}, {}) (scanRun 200)).1.2.since r.arfcn =
        some r.identity :=
  ⟨session_scan_tied (scanRun 100) (by decide +kernel), by decide +kernel, by decide +kernel⟩

end ImsiCatcher

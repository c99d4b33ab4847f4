import ImsiCatcher.Session

/-!
# Evidence and the cell it was gathered for

Lookups and scans leave their results in the record of an ARFCN, and a later sighting of the
same ARFCN overwrites what the record shows. The results then belong to another cell, unless
the sighting is of the same one.
-/

namespace ImsiCatcher

namespace BaseStationInformation

/-- The fields that neither an evaluation nor a lookup writes. -/
def footing (station : BaseStationInformation) : ℤ × CellIdentity × Bool :=
  (station.arfcn, station.identity, station.pchScanDone)

theorem footing_eq {station station' : BaseStationInformation}
    (h : station'.footing = station.footing) : station'.arfcn = station.arfcn ∧
      station'.identity = station.identity ∧ station'.pchScanDone = station.pchScanDone := by
  simpa only [footing, Prod.mk.injEq] using h

end BaseStationInformation

/-! ### What the operations leave of the list -/

namespace Controller

/-- The records are as they were, and so is whether scans are integrated. -/
structure Undisturbed (c c' : Controller) : Prop where
  stations : c'.stations = c.stations
  pchIntegration : c'.pchIntegration = c.pchIntegration

theorem startScan_undisturbed (c : Controller) : c.Undisturbed c.startScan.1 := by
  unfold startScan
  split <;> exact ⟨rfl, rfl⟩

theorem stopScan_undisturbed (c : Controller) : c.Undisturbed c.stopScan.1 := by
  unfold stopScan
  split <;> exact ⟨rfl, rfl⟩

theorem doNextPchScan_undisturbed (c : Controller) : c.Undisturbed c.doNextPchScan.1 := by
  unfold doNextPchScan
  split
  · exact ⟨rfl, rfl⟩
  · simp only
    split <;> exact ⟨rfl, rfl⟩

theorem advanceBatch_undisturbed (c : Controller) : c.Undisturbed c.advanceBatch.1 := by
  unfold advanceBatch
  split
  · exact ⟨rfl, rfl⟩
  · exact doNextPchScan_undisturbed c

theorem normalPchScan_undisturbed (c : Controller) (arfcns : List ℤ) (timeout : ℤ) :
    c.Undisturbed (c.normalPchScan arfcns timeout).1 := by
  unfold normalPchScan
  split
  · exact ⟨rfl, rfl⟩
  · obtain ⟨hstations, hintegration⟩ := doNextPchScan_undisturbed { c with
      pchActive := true
      accumulatedPchResults := []
      userModeFlag := false
      remainingPchArfcns := arfcns
      pchTimeout := timeout }
    exact ⟨hstations, hintegration⟩

theorem userPchScan_undisturbed (c : Controller) (provider : Text) :
    c.Undisturbed (c.userPchScan provider).1 := by
  unfold userPchScan
  split
  · exact ⟨rfl, rfl⟩
  · simp only
    split
    · exact ⟨rfl, rfl⟩
    · split
      · exact ⟨rfl, rfl⟩
      · rename_i station _
        split
        · obtain ⟨hstations, hintegration⟩ := doNextPchScan_undisturbed { c with
            pchActive := true
            userModeFlag := true
            remainingPchArfcns := [station.arfcn]
            accumulatedPchResults := [] }
          exact ⟨hstations, hintegration⟩
        · exact ⟨rfl, rfl⟩

theorem pchDoneCallback_stations (c : Controller) (arfcn : ℤ) (values : PchResult)
    (failed : Bool) : (c.pchDoneCallback arfcn values failed).1.stations =
      if failed then c.stations else (c.integratePch arfcn values).stations := by
  cases failed with
  | true =>
    simp only [pchDoneCallback, pchFailed, if_true]
    split
    · rfl
    · exact (advanceBatch_undisturbed c).stations
  | false =>
    simp only [pchDoneCallback, pchSucceeded, Bool.false_eq_true, if_false]
    split
    · rfl
    · exact (advanceBatch_undisturbed _).stations

/-- Integration writes neither the ARFCNs nor what the records show. -/
theorem map_integratePch {β : Type*} {f : BaseStationInformation → β} (c : Controller) (arfcn : ℤ)
    (values : PchResult)
    (hf : ∀ r r', r'.arfcn = r.arfcn → r'.identity = r.identity → f r' = f r) :
    (c.integratePch arfcn values).stations.map f = c.stations.map f := by
  simp only [integratePch, List.map_map]
  apply List.map_congr_left
  intro r _
  simp only [Function.comp_apply]
  split
  · exact hf r _ rfl rfl
  · rfl

theorem integratePch_arfcns (c : Controller) (arfcn : ℤ) (values : PchResult) :
    (c.integratePch arfcn values).stations.map (·.arfcn) = c.stations.map (·.arfcn) :=
  c.map_integratePch arfcn values fun _ _ harfcn _ => harfcn

/-- Integration marks the record of the scanned ARFCN, and writes nothing that it shows. -/
theorem mem_integratePch {c : Controller} {arfcn : ℤ} {values : PchResult}
    {r' : BaseStationInformation} (h : r' ∈ (c.integratePch arfcn values).stations) :
    ∃ r ∈ c.stations, r'.arfcn = r.arfcn ∧ r'.identity = r.identity ∧
      r'.dbStatus = r.dbStatus ∧ (r'.pchScanDone = true →
        r.arfcn = arfcn ∧ c.pchIntegration = true ∨ r.pchScanDone = true) := by
  obtain ⟨r, hr, rfl⟩ := List.mem_map.1 h
  refine ⟨r, hr, ?_⟩
  by_cases hthis : r.arfcn = arfcn ∧ c.pchIntegration = true
  · rw [if_pos hthis]
    exact ⟨rfl, rfl, rfl, fun _ => Or.inl hthis⟩
  · rw [if_neg hthis]
    exact ⟨rfl, rfl, rfl, Or.inr⟩

end Controller

/-! ### Lookups -/

namespace Lookup

theorem takeGoogle_footing (l : Lookup) (a : LookupAnswer) :
    (l.takeGoogle a).station.footing = l.station.footing := by
  unfold takeGoogle
  split <;> rfl

theorem takeOpenCellId_footing (l : Lookup) (a : LookupAnswer) :
    (l.takeOpenCellId a).station.footing = l.station.footing := by
  unfold takeOpenCellId
  split
  · rfl
  · split <;> rfl

theorem takeLocal_footing (l : Lookup) (a : LookupAnswer) :
    (l.takeLocal a).station.footing = l.station.footing := by
  unfold takeLocal
  split <;> rfl

theorem ask_footing {take : Lookup → LookupAnswer → Lookup}
    (htake : ∀ l a, (take l a).station.footing = l.station.footing) (l : Lookup)
    (enabled : Bool) (name : String) (answer : Option LookupAnswer) :
    (l.ask enabled name answer take).station.footing = l.station.footing := by
  unfold ask
  split
  · rfl
  · cases answer with
    | none => rfl
    | some a => exact htake _ a

/-- A database that was not asked, or that raised, left the record alone. -/
theorem ask_unanswered {take : Lookup → LookupAnswer → Lookup} {l : Lookup} {enabled : Bool}
    {name : String} {answer : Option LookupAnswer}
    (h : (l.ask enabled name answer take).answered = false) :
    l.answered = false ∧ (l.ask enabled name answer take).station = l.station := by
  unfold ask at h ⊢
  by_cases hskip : l.raised = true ∨ l.found = true ∨ ¬enabled = true
  · rw [if_pos hskip] at h ⊢
    exact ⟨h, rfl⟩
  · rw [if_neg hskip] at h ⊢
    cases answer with
    | none => exact ⟨h, rfl⟩
    | some a => exact absurd h (by simp)

end Lookup

namespace Controller

theorem lookUp_footing (c : Controller) (answer : CIDDatabases → Option LookupAnswer)
    (station : BaseStationInformation) :
    (c.lookUp answer station).station.footing = station.footing := by
  unfold lookUp
  rw [Lookup.ask_footing Lookup.takeLocal_footing, Lookup.ask_footing Lookup.takeOpenCellId_footing,
    Lookup.ask_footing Lookup.takeGoogle_footing]

theorem lookUp_unanswered {c : Controller} {answer : CIDDatabases → Option LookupAnswer}
    {station : BaseStationInformation} (h : (c.lookUp answer station).answered = false) :
    (c.lookUp answer station).station = station := by
  obtain ⟨h2, hlocal⟩ := Lookup.ask_unanswered h
  obtain ⟨h1, hopen⟩ := Lookup.ask_unanswered h2
  obtain ⟨_, hgoogle⟩ := Lookup.ask_unanswered h1
  exact hlocal.trans (hopen.trans hgoogle)

/-- The lookups that are made are those of the first stations. -/
theorem lookUps_eq (c : Controller) (answers : ℤ → CIDDatabases → Option LookupAnswer)
    (stations : List BaseStationInformation) :
    c.lookUps answers stations = (stations.take (c.lookUps answers stations).length).map
      fun station => c.lookUp (answers station.arfcn) station := by
  induction stations with
  | nil => rfl
  | cons station rest ih =>
    simp only [lookUps]
    split
    · rfl
    · rw [List.length_cons, List.take_succ_cons, List.map_cons, ← ih]

/-- The stations that `update_with_web_services` reaches before it returns or raises. -/
def reached (c : Controller) (answers : ℤ → CIDDatabases → Option LookupAnswer) :
    List BaseStationInformation :=
  c.stations.take (c.lookUps answers c.stations).length

theorem updateWithWebServices_stations (c : Controller)
    (answers : ℤ → CIDDatabases → Option LookupAnswer) :
    (c.updateWithWebServices answers).1.stations =
      ((c.reached answers).map fun r => (c.lookUp (answers r.arfcn) r).station) ++
        c.stations.drop (c.lookUps answers c.stations).length := by
  have hmap : (c.lookUps answers c.stations).map (·.station) =
      (c.reached answers).map fun r => (c.lookUp (answers r.arfcn) r).station := by
    rw [lookUps_eq, List.map_map]
    rfl
  exact congrArg (· ++ c.stations.drop (c.lookUps answers c.stations).length) hmap

/-- A lookup writes nothing of the footing of a record. -/
theorem map_updateWithWebServices {β : Type*} {f : BaseStationInformation → β} (c : Controller)
    (answers : ℤ → CIDDatabases → Option LookupAnswer)
    (hf : ∀ r r', r'.footing = r.footing → f r' = f r) :
    (c.updateWithWebServices answers).1.stations.map f = c.stations.map f := by
  have hreached : ((c.reached answers).map fun r => (c.lookUp (answers r.arfcn) r).station).map f =
      (c.reached answers).map f := by
    rw [List.map_map]
    apply List.map_congr_left
    intro r _
    exact hf r _ (c.lookUp_footing (answers r.arfcn) r)
  rw [updateWithWebServices_stations, List.map_append, hreached, ← List.map_append, reached,
    List.take_append_drop]

theorem updateWithWebServices_arfcns (c : Controller)
    (answers : ℤ → CIDDatabases → Option LookupAnswer) :
    (c.updateWithWebServices answers).1.stations.map (·.arfcn) = c.stations.map (·.arfcn) :=
  c.map_updateWithWebServices answers fun _ _ h => (BaseStationInformation.footing_eq h).1

/-- A new record is an old one that no database has answered for, or one that was answered. -/
theorem mem_updateWithWebServices {c : Controller}
    {answers : ℤ → CIDDatabases → Option LookupAnswer} {r' : BaseStationInformation}
    (h : r' ∈ (c.updateWithWebServices answers).1.stations) :
    ∃ r ∈ c.stations, r'.footing = r.footing ∧
      (r' = r ∨ r ∈ c.reached answers ∧ (c.lookUp (answers r.arfcn) r).answered = true) := by
  rw [updateWithWebServices_stations, List.mem_append] at h
  rcases h with h | h
  · obtain ⟨r, hr, rfl⟩ := List.mem_map.1 h
    refine ⟨r, List.mem_of_mem_take hr, c.lookUp_footing (answers r.arfcn) r, ?_⟩
    cases hans : (c.lookUp (answers r.arfcn) r).answered with
    | true => exact Or.inr ⟨hr, rfl⟩
    | false => exact Or.inl (lookUp_unanswered hans)
  · exact ⟨r', List.mem_of_mem_drop h, rfl, Or.inl rfl⟩

end Controller

namespace Session

/-! ### What the records show -/

theorem shown_eq_some {stations : List BaseStationInformation}
    (hstations : (stations.map (·.arfcn)).Nodup) {r : BaseStationInformation}
    (hr : r ∈ stations) : shown stations r.arfcn = some r.identity := by
  unfold shown
  cases hfind : stations.find? fun item => item.arfcn = r.arfcn with
  | none => simpa using List.find?_eq_none.1 hfind r hr
  | some item =>
    have harfcn : item.arfcn = r.arfcn := by simpa using List.find?_some hfind
    have hitem : item = r :=
      List.inj_on_of_nodup_map hstations (List.mem_of_find?_eq_some hfind) hr harfcn
    rw [hitem]
    rfl

theorem shown_eq_none {stations : List BaseStationInformation} {arfcn : ℤ}
    (h : ∀ item ∈ stations, item.arfcn ≠ arfcn) : shown stations arfcn = none := by
  have hfind : (stations.find? fun item => item.arfcn = arfcn) = none := by
    rw [List.find?_eq_none]
    intro item hitem
    simpa using h item hitem
  unfold shown
  rw [hfind]
  rfl

/-! ### The invariant -/

/-- A confirmed record was looked up, and a scanned record was scanned, while it showed the
cell that it shows now. -/
structure EvidenceTied (s : Session) : Prop where
  distinct : (s.controller.stations.map (·.arfcn)).Nodup
  lookedUp : ∀ r ∈ s.controller.stations, r.dbStatus = .confirmed →
    s.lookedUp r.arfcn = some r.identity
  scanned : ∀ r ∈ s.controller.stations, r.pchScanDone = true →
    s.scanned r.arfcn = some r.identity

/-- A sighting of an ARFCN for which there is evidence is of the cell that is recorded. -/
def SightsSameCell (s : Session) : SessionEvent → Prop
  | .foundBaseStation sighting _ => ∀ item ∈ s.controller.stations,
      item.arfcn = sighting.station.arfcn →
      (item.dbStatus = .confirmed ∨ item.pchScanDone = true) →
      item.identity = sighting.station.identity
  | _ => True

instance (s : Session) (e : SessionEvent) : Decidable (s.SightsSameCell e) := by
  unfold SightsSameCell
  split <;> infer_instance

theorem evidenceTied_of_stations {s s' : Session} (hs : s.EvidenceTied)
    (hstations : s'.controller.stations = s.controller.stations)
    (hlookedUp : s'.lookedUp = s.lookedUp) (hscanned : s'.scanned = s.scanned) :
    s'.EvidenceTied := by
  obtain ⟨hdistinct, hl, hsc⟩ := hs
  refine ⟨?_, ?_, ?_⟩
  · rw [hstations]
    exact hdistinct
  · rw [hstations, hlookedUp]
    exact hl
  · rw [hstations, hscanned]
    exact hsc

/-- A step keeps the evidence if every record comes from one with the same ARFCN that showed
the same cell, and what marks the new record was found for that cell. -/
theorem EvidenceTied.of_records {s s' : Session} (hs : s.EvidenceTied)
    (harfcns : s'.controller.stations.map (·.arfcn) = s.controller.stations.map (·.arfcn))
    (hfrom : ∀ r' ∈ s'.controller.stations, ∃ r ∈ s.controller.stations,
      r'.arfcn = r.arfcn ∧ r'.identity = r.identity ∧
      (r'.dbStatus = .confirmed → s'.lookedUp r.arfcn = some r.identity) ∧
      (r'.pchScanDone = true → s'.scanned r.arfcn = some r.identity)) : s'.EvidenceTied := by
  refine ⟨?_, ?_, ?_⟩
  · rw [harfcns]
    exact hs.distinct
  · intro r' hr' hconfirmed
    obtain ⟨r, _, harfcn, hid, hlookedUp, _⟩ := hfrom r' hr'
    rw [harfcn, hid]
    exact hlookedUp hconfirmed
  · intro r' hr' hdone
    obtain ⟨r, _, harfcn, hid, _, hscanned⟩ := hfrom r' hr'
    rw [harfcn, hid]
    exact hscanned hdone

/-- An evaluation writes neither what a record shows nor what is known of it. -/
theorem evidenceTied_evaluate {s s' : Session} (hs : s.EvidenceTied) (verdict : ℤ → RuleResult)
    (hstations : s'.controller.stations = (s.controller.evaluate verdict).stations)
    (hlookedUp : s'.lookedUp = s.lookedUp) (hscanned : s'.scanned = s.scanned) :
    s'.EvidenceTied := by
  apply hs.of_records
  · rw [hstations, Controller.evaluate, List.map_map]
    rfl
  · intro r' hr'
    rw [hstations] at hr'
    obtain ⟨r, hr, rfl⟩ := List.mem_map.1 hr'
    rw [hlookedUp, hscanned]
    exact ⟨r, hr, rfl, rfl, hs.lookedUp r hr, hs.scanned r hr⟩

/-- A sighting keeps the evidence of the records that it does not touch, brings none of its
own, and leaves that of a record it overwrites with the same cell. -/
theorem evidenceTied_addStation {s : Session} (hs : s.EvidenceTied) {sighting : Sighting}
    {verdict : ℤ → RuleResult} (he : s.SightsSameCell (.foundBaseStation sighting verdict)) :
    ({ s with controller := { s.controller with
      stations := addStation s.controller.stations sighting.station } } : Session).EvidenceTied := by
  obtain ⟨hdistinct, hl, hsc⟩ := hs
  refine ⟨nodup_addStation hdistinct _, ?_, ?_⟩
  · intro r hr hconfirmed
    rcases mem_addStation hr with h | rfl | ⟨item, hitem, harfcn, rfl⟩
    · exact hl r h hconfirmed
    · exact absurd (sighting.notLookedUp.symm.trans hconfirmed) (by simp)
    · have hid : item.identity = sighting.station.identity :=
        he item hitem harfcn (Or.inl hconfirmed)
      exact (hl item hitem hconfirmed).trans (congrArg some hid)
  · intro r hr hdone
    rcases mem_addStation hr with h | rfl | ⟨item, hitem, harfcn, rfl⟩
    · exact hsc r h hdone
    · exact absurd (sighting.notScanned.symm.trans hdone) (by simp)
    · have hid : item.identity = sighting.station.identity :=
        he item hitem harfcn (Or.inr hdone)
      exact (hsc item hitem hdone).trans (congrArg some hid)

/-- A scan is recorded with what the record of its ARFCN shows. -/
theorem evidenceTied_pchDone {s : Session} (hs : s.EvidenceTied) (thread : ℕ)
    (values : PchResult) (failed : Bool) : (s.pchDone thread values failed).1.EvidenceTied := by
  unfold pchDone
  cases s.outstanding[thread]? with
  | none => exact hs
  | some arfcn =>
    cases failed with
    | true =>
      refine evidenceTied_of_stations hs ?_ rfl ?_
      · exact s.controller.pchDoneCallback_stations arfcn values true
      · funext a
        exact if_neg fun h => absurd h.2.1 (by simp)
    | false =>
      have hstations : (s.controller.pchDoneCallback arfcn values false).1.stations =
          (s.controller.integratePch arfcn values).stations :=
        s.controller.pchDoneCallback_stations arfcn values false
      apply hs.of_records
      · change (s.controller.pchDoneCallback arfcn values false).1.stations.map _ = _
        rw [hstations]
        exact s.controller.integratePch_arfcns arfcn values
      · intro r' hr'
        obtain ⟨r, hr, harfcn, hid, hdb, hdone⟩ :=
          Controller.mem_integratePch (hstations ▸ hr')
        refine ⟨r, hr, harfcn, hid, fun hconfirmed => hs.lookedUp r hr (hdb ▸ hconfirmed), ?_⟩
        intro hdone'
        change (if r.arfcn = arfcn ∧ false = false ∧ s.controller.pchIntegration = true then
          shown s.controller.stations r.arfcn else s.scanned r.arfcn) = _
        by_cases hthis : r.arfcn = arfcn ∧ s.controller.pchIntegration = true
        · rw [if_pos ⟨hthis.1, rfl, hthis.2⟩]
          exact shown_eq_some hs.distinct hr
        · rw [if_neg fun h => hthis ⟨h.1, h.2.2⟩]
          exact hs.scanned r hr ((hdone hdone').resolve_left hthis)

/-- The records of the stations for which a database has answered. -/
theorem shown_answered {stations : List BaseStationInformation}
    (hdistinct : (stations.map (·.arfcn)).Nodup) (f : BaseStationInformation → Lookup)
    (hf : ∀ r, (f r).station.footing = r.footing) (k : ℕ) {r : BaseStationInformation}
    (hr : r ∈ stations) :
    shown ((((stations.take k).map f).filter (·.answered)).map (·.station)) r.arfcn =
      if r ∈ stations.take k ∧ (f r).answered then some r.identity else none := by
  have hmem : ∀ m, m ∈ (((stations.take k).map f).filter (·.answered)).map (·.station) ↔
      ∃ r ∈ stations.take k, (f r).answered = true ∧ (f r).station = m := by
    intro m
    simp only [List.mem_map, List.mem_filter]
    constructor
    · rintro ⟨_, ⟨⟨r, hr, rfl⟩, hans⟩, rfl⟩
      exact ⟨r, hr, hans, rfl⟩
    · rintro ⟨r, hr, hans, rfl⟩
      exact ⟨f r, ⟨⟨r, hr, rfl⟩, hans⟩, rfl⟩
  have harfcn : ∀ r, (f r).station.arfcn = r.arfcn := fun r =>
    (BaseStationInformation.footing_eq (hf r)).1
  by_cases hthis : r ∈ stations.take k ∧ (f r).answered = true
  · rw [if_pos hthis]
    have hnodup : (((((stations.take k).map f).filter (·.answered)).map
        (·.station)).map (·.arfcn)).Nodup := by
      have harfcns : ((((stations.take k).map f).filter (·.answered)).map
          (·.station)).map (·.arfcn) =
          ((stations.take k).filter fun r => (f r).answered).map (·.arfcn) := by
        simp only [List.filter_map, List.map_map, Function.comp_def, harfcn]
      rw [harfcns]
      exact hdistinct.sublist ((List.filter_sublist.trans (List.take_sublist k stations)).map _)
    have hin := (hmem (f r).station).2 ⟨r, hthis.1, hthis.2, rfl⟩
    rw [← harfcn r, shown_eq_some hnodup hin, (BaseStationInformation.footing_eq (hf r)).2.1]
  · rw [if_neg hthis]
    apply shown_eq_none
    intro m hm heq
    obtain ⟨r', hr', hans, rfl⟩ := (hmem m).1 hm
    have hrr : r' = r :=
      List.inj_on_of_nodup_map hdistinct (List.mem_of_mem_take hr') hr ((harfcn r').symm.trans heq)
    exact hthis ⟨hrr ▸ hr', hrr ▸ hans⟩

theorem lookedUp_updateWithWebServices {s : Session}
    (hdistinct : (s.controller.stations.map (·.arfcn)).Nodup)
    (answers : ℤ → CIDDatabases → Option LookupAnswer) {r : BaseStationInformation}
    (hr : r ∈ s.controller.stations) :
    (s.updateWithWebServices answers).1.lookedUp r.arfcn =
      (if r ∈ s.controller.reached answers ∧
          (s.controller.lookUp (answers r.arfcn) r).answered then some r.identity
        else none).or (s.lookedUp r.arfcn) := by
  have hshown := shown_answered hdistinct
    (fun r => s.controller.lookUp (answers r.arfcn) r)
    (fun r => s.controller.lookUp_footing (answers r.arfcn) r)
    (s.controller.lookUps answers s.controller.stations).length hr
  rw [← s.controller.lookUps_eq] at hshown
  exact congrArg (Option.or · (s.lookedUp r.arfcn)) hshown

/-- A lookup is recorded with what the record shows, if a database has answered. -/
theorem evidenceTied_updateWithWebServices {s : Session} (hs : s.EvidenceTied)
    (answers : ℤ → CIDDatabases → Option LookupAnswer) :
    (s.updateWithWebServices answers).1.EvidenceTied := by
  apply hs.of_records (s.controller.updateWithWebServices_arfcns answers)
  intro r' hr'
  obtain ⟨r, hr, hr'foot, hfrom⟩ := Controller.mem_updateWithWebServices hr'
  obtain ⟨harfcn, hid, hpch⟩ := BaseStationInformation.footing_eq hr'foot
  refine ⟨r, hr, harfcn, hid, ?_, fun hdone => hs.scanned r hr (hpch ▸ hdone)⟩
  intro hconfirmed
  rw [lookedUp_updateWithWebServices hs.distinct answers hr]
  by_cases hans : r ∈ s.controller.reached answers ∧
      (s.controller.lookUp (answers r.arfcn) r).answered = true
  · rw [if_pos hans]
    rfl
  · rw [if_neg hans, Option.none_or]
    have hsame : r' = r := hfrom.resolve_right hans
    exact hs.lookedUp r hr (hsame ▸ hconfirmed)

theorem evidenceTied_step {s : Session} (hs : s.EvidenceTied) {e : SessionEvent}
    (he : s.SightsSameCell e) : (s.step e).1.EvidenceTied := by
  cases e with
  | startScan =>
    exact evidenceTied_of_stations hs (Controller.startScan_undisturbed _).stations rfl rfl
  | stopScan =>
    exact evidenceTied_of_stations hs (Controller.stopScan_undisturbed _).stations rfl rfl
  | normalPchScan arfcns timeout =>
    exact evidenceTied_of_stations hs
      (Controller.normalPchScan_undisturbed _ arfcns timeout).stations rfl rfl
  | userPchScan provider =>
    exact evidenceTied_of_stations hs
      (Controller.userPchScan_undisturbed _ provider).stations rfl rfl
  | pchDone thread values failed => exact evidenceTied_pchDone hs thread values failed
  | foundBaseStation sighting verdict =>
    exact evidenceTied_evaluate (evidenceTied_addStation hs he) verdict rfl rfl rfl
  | triggerEvaluation verdict => exact evidenceTied_evaluate hs verdict rfl rfl rfl
  | updateWithWebServices answers => exact evidenceTied_updateWithWebServices hs answers
  | settings useGoogle useOpenCellId useLocalDb pchIntegration =>
    exact evidenceTied_of_stations hs rfl rfl rfl

end Session

/-- Evidence stays tied to its cell, as long as no sighting of an ARFCN for which there is
evidence is of another cell. -/
theorem session_evidence_tied (es : List SessionEvent)
    (hes : session.Along Session.SightsSameCell {} es) :
    (∀ r ∈ (session.run {} es).1.controller.stations,
      (r.dbStatus = .confirmed → (session.run {} es).1.lookedUp r.arfcn = some r.identity) ∧
      (r.pchScanDone = true → (session.run {} es).1.scanned r.arfcn = some r.identity)) ∧
    ∀ arfcn, cellIDDatabaseRule arfcn (session.run {} es).1.controller.stations = some .ok →
      ∃ r ∈ (session.run {} es).1.controller.stations, r.arfcn = arfcn ∧
        ((session.run {} es).1.lookedUp arfcn).map (·.cell) = some r.cell := by
  have hinit : ({} : Session).EvidenceTied :=
    ⟨List.nodup_nil, fun r hr => absurd hr List.not_mem_nil, fun r hr => absurd hr List.not_mem_nil⟩
  obtain ⟨_, hl, hsc⟩ := session.invariant_run (P := Session.SightsSameCell)
    (I := Session.EvidenceTied) (fun _ _ hs he => Session.evidenceTied_step hs he) hinit hes
  refine ⟨fun r hr => ⟨hl r hr, hsc r hr⟩, ?_⟩
  intro arfcn hok
  obtain ⟨r, hfind, hstatus⟩ := Option.map_eq_some_iff.1 hok
  have hr := List.mem_of_find?_eq_some hfind
  have harfcn : r.arfcn = arfcn := by simpa using List.find?_some hfind
  have hconfirmed : r.dbStatus = .confirmed := by
    cases hdb : r.dbStatus <;> simp [hdb] at hstatus ⊢
  refine ⟨r, hr, harfcn, ?_⟩
  rw [← harfcn, hl r hr hconfirmed]
  rfl

def sightingOf (arfcn cell : ℤ) : Sighting := ⟨{ arfcn := arfcn, cell := cell }, rfl, rfl⟩

def confirmAll : SessionEvent :=
  .updateWithWebServices fun _ _ => some ⟨.confirmed, 49, 8⟩

def evidenceRun (cell cell' : ℤ) : List SessionEvent :=
  [.settings false false true true, .foundBaseStation (sightingOf 7 cell) fun _ => .ok, confirmAll,
    .normalPchScan [7] 10, .pchDone 0 nonHoppingScan false,
    .foundBaseStation (sightingOf 7 cell') fun _ => .ok]

theorem session_evidence_tied_again :
    cellIDDatabaseRule 7 (session.run {} (evidenceRun 100 100)).1.controller.stations = some .ok ∧
    ∃ r ∈ (session.run {} (evidenceRun 100 100)).1.controller.stations, r.arfcn = 7 ∧
      ((session.run {} (evidenceRun 100 100)).1.lookedUp 7).map (·.cell) = some r.cell :=
  ⟨by decide +kernel, (session_evidence_tied (evidenceRun 100 100) (by decide +kernel)).2 7
    (by decide +kernel)⟩

/-- The second sighting is of cell 200, and the record says that it is confirmed. -/
theorem session_evidence_untied : ¬ ∀ es : List SessionEvent,
    (∀ r ∈ (session.run {} es).1.controller.stations,
      (r.dbStatus = .confirmed → (session.run {} es).1.lookedUp r.arfcn = some r.identity) ∧
      (r.pchScanDone = true → (session.run {} es).1.scanned r.arfcn = some r.identity)) ∧
    ∀ arfcn, cellIDDatabaseRule arfcn (session.run {} es).1.controller.stations = some .ok →
      ∃ r ∈ (session.run {} es).1.controller.stations, r.arfcn = arfcn ∧
        ((session.run {} es).1.lookedUp arfcn).map (·.cell) = some r.cell := by
  intro h
  have htied := (h (evidenceRun 100 200)).1
  revert htied
  decide +kernel

end ImsiCatcher

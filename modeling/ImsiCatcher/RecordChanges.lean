import ImsiCatcher.Evidence

/-!
# What the operations write into the records

A lookup writes four fields of a record, and leaves it with the status that the databases
give. A finished PCH scan writes four others, if scans are integrated; whether they are is
left alone by the operations of the controller.
-/

namespace ImsiCatcher

/-- A lookup writes four fields of the record. -/
def Located (station station' : BaseStationInformation) : Prop :=
  ∃ latitude longitude status provider, station' = { station with
    latitude := latitude
    longitude := longitude
    dbStatus := status
    dbProvider := provider }

theorem Located.refl (station : BaseStationInformation) : Located station station :=
  ⟨_, _, _, _, rfl⟩

theorem Located.status {station station' : BaseStationInformation} (h : Located station station')
    (status : CellIDDBStatus) : Located station { station' with dbStatus := status } := by
  obtain ⟨_, _, _, _, rfl⟩ := h
  exact ⟨_, _, _, _, rfl⟩

theorem Located.locate {station : BaseStationInformation} {l : Lookup}
    (h : Located station l.station) (db : CIDDatabases) (latitude longitude : ℚ) :
    Located station (l.locate db latitude longitude).station := by
  obtain ⟨_, _, _, _, heq⟩ := h
  rw [Lookup.locate, heq]
  exact ⟨_, _, _, _, rfl⟩

namespace Lookup

theorem ask_located {station : BaseStationInformation} {l : Lookup}
    (h : Located station l.station) {take : Lookup → LookupAnswer → Lookup}
    (htake : ∀ l a, Located station l.station → Located station (take l a).station)
    (enabled : Bool) (name : String) (answer : Option LookupAnswer) :
    Located station (l.ask enabled name answer take).station := by
  unfold ask
  split
  · exact h
  · extract_lets line l'
    cases answer with
    | none => exact h
    | some a => exact (htake l' a h).status a.status

end Lookup

namespace Controller
variable (c : Controller)

theorem lookUp_located (answer : CIDDatabases → Option LookupAnswer)
    (station : BaseStationInformation) :
    Located station (c.lookUp answer station).station := by
  unfold lookUp
  refine Lookup.ask_located (Lookup.ask_located (Lookup.ask_located (Located.refl station) ?_
    _ _ _) ?_ _ _ _) ?_ _ _ _
  · intro l a h
    unfold Lookup.takeGoogle
    split
    · exact h.locate _ _ _
    · exact h
  · intro l a h
    unfold Lookup.takeOpenCellId
    split_ifs
    · exact h.locate _ _ _
    · exact h.locate _ _ _
    · exact h
  · intro l a h
    unfold Lookup.takeLocal
    split
    · exact h.locate _ _ _
    · exact h

def enabledDatabases : List CIDDatabases :=
  (if c.useGoogle then [.google] else []) ++ ((if c.useOpenCellId then [.opencid] else []) ++
    ((if c.useLocalDb then [.localDb] else []) ++ []))

end Controller

/-- The status that the databases give a record: the latest answer, up to one that confirms
the cell or an exception. -/
def statusFrom (answer : CIDDatabases → Option LookupAnswer) :
    List CIDDatabases → CellIDDBStatus → CellIDDBStatus
  | [], status => status
  | db :: rest, status =>
    match answer db with
    | none => status
    | some a => if a.status = .confirmed then a.status else statusFrom answer rest a.status

/-- The lookups that are made for a record: up to one that confirms the cell or an exception. -/
def lookupsMade (answer : CIDDatabases → Option LookupAnswer) :
    List CIDDatabases → List (CIDDatabases × LookupAnswer)
  | [] => []
  | db :: rest =>
    match answer db with
    | none => []
    | some a => (db, a) :: if a.status = .confirmed then [] else lookupsMade answer rest

namespace Lookup
variable {answer : CIDDatabases → Option LookupAnswer} {dbs : List CIDDatabases}
  {ask' : Lookup → Lookup}

def take : CIDDatabases → Lookup → LookupAnswer → Lookup
  | .google => takeGoogle
  | .opencid => takeOpenCellId
  | .localDb => takeLocal
  | .none => fun l _ => l

def written (station : BaseStationInformation) (made : CIDDatabases × LookupAnswer) :
    BaseStationInformation :=
  { (take made.1 { station := station } made.2).station with dbStatus := made.2.status }

theorem take_station (db : CIDDatabases) (l : Lookup) (a : LookupAnswer) :
    (take db l a).station = (take db { station := l.station } a).station := by
  cases db with
  | none => rfl
  | google =>
    simp only [take, takeGoogle]
    split <;> rfl
  | opencid =>
    simp only [take, takeOpenCellId]
    split_ifs <;> rfl
  | localDb =>
    simp only [take, takeLocal]
    split <;> rfl

theorem take_raised (db : CIDDatabases) (l : Lookup) (a : LookupAnswer) :
    (take db l a).raised = l.raised := by
  cases db with
  | none => rfl
  | google =>
    simp only [take, takeGoogle]
    split <;> rfl
  | opencid =>
    simp only [take, takeOpenCellId]
    split_ifs <;> rfl
  | localDb =>
    simp only [take, takeLocal]
    split <;> rfl

/-- A part of a lookup writes what the databases `dbs` answer, unless the lookup is over. -/
def Writes (answer : CIDDatabases → Option LookupAnswer) (dbs : List CIDDatabases)
    (ask' : Lookup → Lookup) : Prop :=
  ∀ l, (ask' l).station = if l.raised = true ∨ l.found = true then l.station
    else (lookupsMade answer dbs).foldl written l.station

/-- A part of a lookup asks the databases `dbs`, unless the lookup is over. -/
def Asks (answer : CIDDatabases → Option LookupAnswer) (dbs : List CIDDatabases)
    (ask' : Lookup → Lookup) : Prop :=
  ∀ l, (ask' l).station.dbStatus = if l.raised = true ∨ l.found = true then l.station.dbStatus
    else statusFrom answer dbs l.station.dbStatus

/-- One more database is asked in front of the others. The database is the last one, or is
found to confirm the cell just when it does. -/
theorem Writes.ask (h : Writes answer dbs ask') (db : CIDDatabases)
    (hfound : ∀ l a, dbs = [] ∨
      ((take db l a).found = true ↔ l.found = true ∨ a.status = .confirmed))
    (enabled : Bool) (name : String) :
    Writes answer ((if enabled then [db] else []) ++ dbs)
      fun l => ask' (l.ask enabled name (answer db) (take db)) := by
  intro l
  dsimp only
  by_cases hover : l.raised = true ∨ l.found = true
  · have hskip : l.raised = true ∨ l.found = true ∨ ¬enabled = true := by tauto
    rw [Lookup.ask, if_pos hskip, h, if_pos hover, if_pos hover]
  rw [if_neg hover]
  cases enabled with
  | false =>
    have hskip : l.raised = true ∨ l.found = true ∨ ¬false = true := by simp
    rw [Lookup.ask, if_pos hskip, h, if_neg hover]
    rfl
  | true =>
    have hasked : ¬(l.raised = true ∨ l.found = true ∨ ¬true = true) := by simpa using hover
    rw [Lookup.ask, if_neg hasked, if_pos rfl, List.singleton_append, lookupsMade]
    extract_lets line l'
    cases hanswer : answer db with
    | none =>
      dsimp only
      rw [h, if_pos (Or.inl rfl)]
      rfl
    | some a =>
      have hopen : ¬(take db l' a).raised = true := by
        rw [take_raised]
        exact fun hraised => hover (Or.inl hraised)
      dsimp only
      rw [h, List.foldl_cons, written, ← take_station db l' a]
      dsimp only
      rcases hfound l' a with hlast | hfound
      · rw [hlast, lookupsMade, ite_self, List.foldl_nil, ite_self]
      · have hnot : ¬l'.found = true := fun hfound => hover (Or.inr hfound)
        simp only [hopen, hfound, hnot, Bool.false_eq_true, false_or]
        split <;> rfl

theorem Writes.skip : Writes answer [] fun l => l := by
  intro l
  rw [lookupsMade, List.foldl_nil, ite_self]

theorem foldl_written_dbStatus (answer : CIDDatabases → Option LookupAnswer)
    (dbs : List CIDDatabases) (station : BaseStationInformation) :
    ((lookupsMade answer dbs).foldl written station).dbStatus =
      statusFrom answer dbs station.dbStatus := by
  induction dbs generalizing station with
  | nil => rfl
  | cons db rest ih =>
    rw [lookupsMade, statusFrom]
    cases answer db with
    | none => rfl
    | some a =>
      dsimp only
      rw [List.foldl_cons]
      split
      · rfl
      · exact ih _

theorem Writes.asks (h : Writes answer dbs ask') : Asks answer dbs ask' := by
  intro l
  rw [h l, apply_ite BaseStationInformation.dbStatus, foldl_written_dbStatus]

theorem takeGoogle_found (l : Lookup) (a : LookupAnswer) :
    (l.takeGoogle a).found = true ↔ l.found = true ∨ a.status = .confirmed := by
  unfold takeGoogle
  split
  · rename_i hconfirmed
    simp [hconfirmed]
  · rename_i hconfirmed
    simp [hconfirmed]

theorem takeOpenCellId_found (l : Lookup) (a : LookupAnswer) :
    (l.takeOpenCellId a).found = true ↔ l.found = true ∨ a.status = .confirmed := by
  unfold takeOpenCellId
  split_ifs with hconfirmed happroximated
  · simp [hconfirmed]
  · simp [happroximated, locate, say]
  · simp [hconfirmed]

end Lookup

namespace Controller
variable (c : Controller)

/-- A lookup writes what the databases answer over the record, one after the other. -/
theorem lookUp_writes (answer : CIDDatabases → Option LookupAnswer) :
    Lookup.Writes answer c.enabledDatabases fun l =>
      ((l.ask c.useGoogle "Google" (answer .google) Lookup.takeGoogle).ask c.useOpenCellId
        "OpenCellID" (answer .opencid) Lookup.takeOpenCellId).ask c.useLocalDb "Local"
        (answer .localDb) Lookup.takeLocal := by
  have hnone : Lookup.Writes answer [] fun l => l := Lookup.Writes.skip
  have hlocal := hnone.ask .localDb (fun _ _ => Or.inl rfl) c.useLocalDb "Local"
  have hopen := hlocal.ask .opencid (fun l a => Or.inr (l.takeOpenCellId_found a))
    c.useOpenCellId "OpenCellID"
  exact hopen.ask .google (fun l a => Or.inr (l.takeGoogle_found a)) c.useGoogle "Google"

theorem lookUp_station (answer : CIDDatabases → Option LookupAnswer)
    (station : BaseStationInformation) :
    (c.lookUp answer station).station =
      (lookupsMade answer c.enabledDatabases).foldl Lookup.written station :=
  c.lookUp_writes answer { station := station }

theorem lookUp_dbStatus (answer : CIDDatabases → Option LookupAnswer)
    (station : BaseStationInformation) :
    (c.lookUp answer station).station.dbStatus =
      statusFrom answer c.enabledDatabases station.dbStatus :=
  (c.lookUp_writes answer).asks { station := station }

def lookedUp (answers : ℤ → CIDDatabases → Option LookupAnswer)
    (station : BaseStationInformation) : BaseStationInformation :=
  if station ∈ c.reached answers then (c.lookUp (answers station.arfcn) station).station
  else station

theorem updateWithWebServices_map {c : Controller} (h : (c.stations.map (·.arfcn)).Nodup)
    (answers : ℤ → CIDDatabases → Option LookupAnswer) :
    (c.updateWithWebServices answers).1.stations = c.stations.map (c.lookedUp answers) := by
  have hnodup : c.stations.Nodup := List.Nodup.of_map _ h
  have hdrop : ∀ station ∈ c.stations.drop (c.lookUps answers c.stations).length,
      c.lookedUp answers station = station := fun station hmem =>
    if_neg fun hreached => List.disjoint_take_drop hnodup le_rfl hreached hmem
  have htake : ∀ station ∈ c.reached answers,
      c.lookedUp answers station = (c.lookUp (answers station.arfcn) station).station :=
    fun station hmem => if_pos hmem
  calc (c.updateWithWebServices answers).1.stations
      = (c.reached answers).map (c.lookedUp answers) ++
          (c.stations.drop (c.lookUps answers c.stations).length).map (c.lookedUp answers) := by
        rw [updateWithWebServices_stations, List.map_congr_left htake, List.map_congr_left hdrop,
          List.map_id']
    _ = c.stations.map (c.lookedUp answers) := by
        rw [reached, ← List.map_append, List.take_append_drop]

theorem lookedUp_located (answers : ℤ → CIDDatabases → Option LookupAnswer)
    (station : BaseStationInformation) : Located station (c.lookedUp answers station) := by
  unfold lookedUp
  split
  · exact c.lookUp_located _ station
  · exact Located.refl station

/-! ### PCH scans -/

theorem pchDoneCallback_pchIntegration (arfcn : ℤ) (values : PchResult) (failed : Bool) :
    (c.pchDoneCallback arfcn values failed).1.pchIntegration = c.pchIntegration := by
  cases failed with
  | true =>
    simp only [pchDoneCallback, pchFailed, if_true]
    split
    · rfl
    · exact (advanceBatch_undisturbed c).pchIntegration
  | false =>
    simp only [pchDoneCallback, pchSucceeded, Bool.false_eq_true, if_false]
    split
    · rfl
    · exact (advanceBatch_undisturbed _).pchIntegration

def integrated (arfcn : ℤ) (values : PchResult) (station : BaseStationInformation) :
    BaseStationInformation :=
  if station.arfcn = arfcn ∧ c.pchIntegration then
    { station with
      immAssNonHop := values.assignmentsNonHopping
      immAssHop := values.assignmentsHopping
      pagings := values.pagings
      pchScanDone := true }
  else station

theorem pchDoneCallback_map (arfcn : ℤ) (values : PchResult) :
    (c.pchDoneCallback arfcn values false).1.stations =
      c.stations.map (c.integrated arfcn values) :=
  pchDoneCallback_stations c arfcn values false

end Controller

/-! ### Properties of all records -/

/-- No evaluation, no answer of a database and no finished scan takes the property away. -/
structure KeptByOperations (p : BaseStationInformation → Prop) : Prop where
  evaluated : ∀ item result, p item → p { item with evaluation := some result }
  written : ∀ item made, p item → p (Lookup.written item made)
  scanned : ∀ item (values : PchResult), p item → p { item with
    immAssNonHop := values.assignmentsNonHopping
    immAssHop := values.assignmentsHopping
    pagings := values.pagings
    pchScanDone := true }

/-- A sighting brings the property to a new record, and to one that it overwrites. -/
def SessionEvent.Brings (p : BaseStationInformation → Prop) : SessionEvent → Prop
  | .foundBaseStation sighting _ => p { sighting.station with found := true } ∧
      ∀ item, p item → p (item.overwrite sighting.station)
  | _ => True

section Records
variable {p : BaseStationInformation → Prop} (hp : KeptByOperations p)
include hp

theorem KeptByOperations.foldl_written {item : BaseStationInformation} (h : p item)
    (made : List (CIDDatabases × LookupAnswer)) : p (made.foldl Lookup.written item) := by
  induction made generalizing item with
  | nil => exact h
  | cons m made ih => exact ih (hp.written item m h)

theorem KeptByOperations.evaluate {c : Controller} (h : ∀ item ∈ c.stations, p item)
    (verdict : ℤ → RuleResult) : ∀ item ∈ (c.evaluate verdict).stations, p item := by
  intro item hitem
  obtain ⟨before, hbefore, rfl⟩ := List.mem_map.1 hitem
  exact hp.evaluated before _ (h before hbefore)

theorem KeptByOperations.updateWithWebServices {c : Controller} (h : ∀ item ∈ c.stations, p item)
    (answers : ℤ → CIDDatabases → Option LookupAnswer) :
    ∀ item ∈ (c.updateWithWebServices answers).1.stations, p item := by
  intro item hitem
  rw [Controller.updateWithWebServices_stations, List.mem_append] at hitem
  rcases hitem with hitem | hitem
  · obtain ⟨before, hbefore, rfl⟩ := List.mem_map.1 hitem
    rw [Controller.lookUp_station]
    exact hp.foldl_written (h before (List.mem_of_mem_take hbefore)) _
  · exact h item (List.mem_of_mem_drop hitem)

theorem KeptByOperations.pchDoneCallback {c : Controller} (h : ∀ item ∈ c.stations, p item)
    (arfcn : ℤ) (values : PchResult) (failed : Bool) :
    ∀ item ∈ (c.pchDoneCallback arfcn values failed).1.stations, p item := by
  rw [Controller.pchDoneCallback_stations]
  cases failed with
  | true => exact h
  | false =>
    intro item hitem
    obtain ⟨before, hbefore, rfl⟩ := List.mem_map.1 hitem
    split
    · exact hp.scanned before values (h before hbefore)
    · exact h before hbefore

/-- A property that the operations keep is one of all records, if each sighting brings it. -/
theorem Session.records_step {s : Session} (hs : ∀ item ∈ s.controller.stations, p item)
    {e : SessionEvent} (he : e.Brings p) : ∀ item ∈ (s.step e).1.controller.stations, p item := by
  have hsame : ∀ {c : Controller}, s.controller.Undisturbed c → ∀ item ∈ c.stations, p item :=
    fun hc => hc.stations ▸ hs
  cases e with
  | startScan => exact hsame (Controller.startScan_undisturbed _)
  | stopScan => exact hsame (Controller.stopScan_undisturbed _)
  | normalPchScan arfcns timeout =>
    exact hsame (Controller.normalPchScan_undisturbed _ arfcns timeout)
  | userPchScan provider => exact hsame (Controller.userPchScan_undisturbed _ provider)
  | pchDone thread values failed =>
    simp only [Session.step, Session.pchDone]
    split
    · exact hs
    · exact hp.pchDoneCallback hs _ values failed
  | foundBaseStation sighting verdict =>
    refine hp.evaluate (c := { s.controller with
      stations := addStation s.controller.stations sighting.station }) ?_ verdict
    intro item hitem
    rcases mem_addStation hitem with hitem | rfl | ⟨before, hbefore, -, rfl⟩
    · exact hs item hitem
    · exact he.1
    · exact he.2 before (hs before hbefore)
  | triggerEvaluation verdict => exact hp.evaluate hs verdict
  | updateWithWebServices answers => exact hp.updateWithWebServices hs answers
  | settings useGoogle useOpenCellId useLocalDb pchIntegration => exact hs

end Records

end ImsiCatcher

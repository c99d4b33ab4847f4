import ImsiCatcher.LocalAreaDatabase
import ImsiCatcher.Machine
import ImsiCatcher.SightingList

/-!
# The databases of the locations

Each location has a file with a table, and one of the files is open. The rule of the local
database reads a cache, which is filled when a file is opened and when the location is set.
An insertion goes to the table alone, so that the cache falls behind.
-/

namespace ImsiCatcher
open LocalAreaDatabase

structure ScannedList where
  stations : List BaseStationInformation := []
  scanned : ∀ station ∈ stations, 0 < station.timesScanned := by simp

def ScannedList.add (list : ScannedList) (p : ParsedStation) : ScannedList where
  stations := addStation list.stations p.station
  scanned := by
    intro r hr
    rcases mem_addStation hr with hr | rfl | ⟨item, -, -, rfl⟩
    · exact list.scanned r hr
    · exact p.timesScanned.symm ▸ Nat.one_pos
    · exact Nat.succ_pos item.timesScanned

/-- The controller and its database object, as far as they have to do with locations. `files`
are the tables of the files that exist, and the cache has an entry for each row of one. -/
structure LocationSession where
  list : ScannedList := {}
  location : Text := []
  files : Text → Option (List StationRow) := fun _ => none
  connection : Option Text := none
  connected : ∀ name, connection = some name → (files name).isSome = true := by simp
  cache : List StationRow := []

inductive LocationEvent where
  | foundBaseStation (p : ParsedStation)
  | loadProject (list : ScannedList)
  | loadOrCreateDatabase (name : Text)
  | insertOrAlterBaseStations (list : ScannedList)
  | updateLocationDatabase
  | setNewLocation (newLocation : Text)

namespace LocalAreaDatabase
variable {rows : List StationRow} {station : BaseStationInformation} {cell : ℤ}

theorem getRow_insertStation : getRow (insertStation rows station) cell =
    (getRow rows cell).or (getRow (insertStation [] station) cell) := by
  rw [getRow, insertStation, List.find?_append]
  rfl

theorem getRow_alterStation (rmin rmax : ℤ) (sightings : ℕ) :
    getRow (alterStation rows station rmin rmax sightings) cell =
      if cell = station.cell then (getRow rows cell).map fun row => { row with
        rxmin := if station.rxlev < rmin then station.rxlev else rmin
        rxmax := if rmax < station.rxlev then station.rxlev else rmax
        sightings := sightings + station.timesScanned }
      else getRow rows cell := by
  induction rows with
  | nil => simp [alterStation, getRow]
  | cons row rest ih =>
    rw [alterStation, getRow] at ih
    rw [alterStation, List.map_cons, getRow, List.find?_cons, getRow, List.find?_cons]
    by_cases hrow : row.cellID = cell
    · by_cases hcell : cell = station.cell
      · simp [hrow, hcell]
      · simp [hrow, hcell]
    · by_cases hstation : row.cellID = station.cell
      · simp only [hstation, if_true] at hrow ⊢
        simp only [hrow, decide_false]
        exact ih
      · simp only [hstation, if_false, hrow, decide_false]
        exact ih

def sightingsAt (rows : List StationRow) (cell : ℤ) : ℕ :=
  ((getRow rows cell).map (·.sightings)).getD 0

theorem sightingsAt_insertOrAlterBaseStation (rows : List StationRow)
    (station : BaseStationInformation) (cell : ℤ) :
    sightingsAt (insertOrAlterBaseStation rows station) cell =
      sightingsAt rows cell + if station.cell = cell then station.timesScanned else 0 := by
  rw [sightingsAt, insertOrAlterBaseStation, sightingsAt]
  cases hfound : getRow rows station.cell with
  | none =>
    dsimp only
    rw [getRow_insertStation]
    by_cases hcell : station.cell = cell
    · rw [← hcell, hfound]
      simp [insertStation, getRow]
    · cases getRow rows cell <;> simp [insertStation, getRow, hcell]
  | some old =>
    dsimp only
    rw [getRow_alterStation]
    by_cases hcell : cell = station.cell
    · simp [hcell, hfound]
    · have hne : ¬station.cell = cell := fun h => hcell h.symm
      simp [hcell, hne]

def submittedSightings (stations : List BaseStationInformation) (cell : ℤ) : ℕ :=
  ((stations.filter (·.cell = cell)).map (·.timesScanned)).sum

theorem submittedSightings_cons (station : BaseStationInformation)
    (stations : List BaseStationInformation) (cell : ℤ) :
    submittedSightings (station :: stations) cell =
      (if station.cell = cell then station.timesScanned else 0) +
        submittedSightings stations cell := by
  rw [submittedSightings, List.filter_cons, submittedSightings]
  by_cases hcell : station.cell = cell <;> simp [hcell]

theorem sightingsAt_insertOrAlterBaseStations (rows : List StationRow)
    (stations : List BaseStationInformation) (cell : ℤ) :
    sightingsAt (insertOrAlterBaseStations rows stations) cell =
      sightingsAt rows cell + submittedSightings stations cell := by
  induction stations generalizing rows with
  | nil => rfl
  | cons station rest ih =>
    rw [submittedSightings_cons, ← Nat.add_assoc, ← sightingsAt_insertOrAlterBaseStation]
    exact ih (insertOrAlterBaseStation rows station)

end LocalAreaDatabase

namespace LocationSession

def openTable (s : LocationSession) : Option (List StationRow) := s.connection.bind s.files

def refreshObjectCache (s : LocationSession) : LocationSession :=
  match s.openTable with
  | none => s
  | some rows => { s with cache := rows }

def loadOrCreateDatabase (s : LocationSession) (name : Text) : LocationSession :=
  refreshObjectCache { s with
    files := Function.update s.files name (some ((s.files name).getD createBaseTable))
    connection := some name
    connected := by
      rintro name' ⟨rfl⟩
      rw [Function.update_self, Option.isSome_some] }

/-- Without an open file an exception is raised, unless the list is empty. -/
def insertOrAlterBaseStations (s : LocationSession) (stations : List BaseStationInformation) :
    LocationSession :=
  match hname : s.connection with
  | none => s
  | some name => { s with
      files := Function.update s.files name ((s.files name).map fun rows =>
        LocalAreaDatabase.insertOrAlterBaseStations rows stations)
      connected := by
        intro name' hname'
        obtain rfl : name = name' := Option.some_inj.1 (hname.symm.trans hname')
        rw [Function.update_self, Option.isSome_map]
        exact s.connected name hname }

def updateLocationDatabase (s : LocationSession) : LocationSession × List ControllerCall :=
  ((s.loadOrCreateDatabase s.location).insertOrAlterBaseStations s.list.stations,
    [.logLine ("Done with database upgrade on ".toList ++ s.location ++ ['.'])])

def setNewLocation (s : LocationSession) (newLocation : Text) :
    LocationSession × List ControllerCall :=
  if newLocation ≠ s.location then
    ((({ s with location := newLocation }).loadOrCreateDatabase newLocation).refreshObjectCache,
      [.logLine ("Location changed to ".toList ++ newLocation)])
  else (s.refreshObjectCache, [])

def step (s : LocationSession) : LocationEvent → LocationSession × List ControllerCall
  | .foundBaseStation p => ({ s with list := s.list.add p }, [])
  | .loadProject list => ({ s with list := list }, [])
  | .loadOrCreateDatabase name => (s.loadOrCreateDatabase name, [])
  | .insertOrAlterBaseStations list => (s.insertOrAlterBaseStations list.stations, [])
  | .updateLocationDatabase => s.updateLocationDatabase
  | .setNewLocation newLocation => s.setNewLocation newLocation

theorem refreshObjectCache_eq (s : LocationSession) :
    s.refreshObjectCache = { s with cache := s.openTable.getD s.cache } := by
  unfold refreshObjectCache
  split
  · rename_i hnone
    rw [hnone, Option.getD_none]
  · rename_i rows hrows
    rw [hrows, Option.getD_some]

theorem openTable_refreshObjectCache (s : LocationSession) :
    s.refreshObjectCache.openTable = s.openTable := by
  rw [refreshObjectCache_eq]
  rfl

theorem cache_refreshObjectCache (s : LocationSession) :
    s.refreshObjectCache.cache = s.openTable.getD s.cache := by
  rw [refreshObjectCache_eq]

theorem openTable_loadOrCreateDatabase (s : LocationSession) (name : Text) :
    (s.loadOrCreateDatabase name).openTable = some ((s.files name).getD createBaseTable) := by
  rw [loadOrCreateDatabase, openTable_refreshObjectCache]
  exact Function.update_self name _ s.files

theorem cache_loadOrCreateDatabase (s : LocationSession) (name : Text) :
    (s.loadOrCreateDatabase name).cache = (s.files name).getD createBaseTable := by
  have htable := s.openTable_loadOrCreateDatabase name
  rw [loadOrCreateDatabase, openTable_refreshObjectCache] at htable
  rw [loadOrCreateDatabase, cache_refreshObjectCache, htable, Option.getD_some]

theorem openTable_insertOrAlterBaseStations (s : LocationSession)
    (stations : List BaseStationInformation) :
    (s.insertOrAlterBaseStations stations).openTable =
      s.openTable.map fun rows => LocalAreaDatabase.insertOrAlterBaseStations rows stations := by
  unfold insertOrAlterBaseStations
  split
  · rename_i hnone
    simp [openTable, hnone]
  · rename_i name hname
    simp [openTable, hname]

theorem cache_insertOrAlterBaseStations (s : LocationSession)
    (stations : List BaseStationInformation) :
    (s.insertOrAlterBaseStations stations).cache = s.cache := by
  unfold insertOrAlterBaseStations
  split <;> rfl

end LocationSession

def locationSession : Machine LocationSession LocationEvent ControllerCall :=
  ⟨LocationSession.step⟩

/-! ### The cache and the table -/

/-- What a row or an entry of the cache keeps of the levels and the sightings. -/
def StationRow.levels (row : StationRow) : ℤ × ℤ × ℕ := (row.rxmin, row.rxmax, row.sightings)

namespace LocationSession

def table (s : LocationSession) : List StationRow := s.openTable.getD []

/-- A cell has an entry in the cache just when the open table has a row for it, with the same
levels and sightings. -/
def Mirrors (s : LocationSession) : Prop :=
  ∀ cell, (getRow s.cache cell).map (·.levels) = (getRow s.table cell).map (·.levels)

def Keeps (s : LocationSession) : LocationEvent → Prop
  | .insertOrAlterBaseStations list => s.connection = none ∨ list.stations = []
  | .updateLocationDatabase => s.list.stations = []
  | _ => True

instance (s : LocationSession) (e : LocationEvent) : Decidable (s.Keeps e) :=
  match e with
  | .foundBaseStation _ => inferInstanceAs (Decidable True)
  | .loadProject _ => inferInstanceAs (Decidable True)
  | .loadOrCreateDatabase _ => inferInstanceAs (Decidable True)
  | .insertOrAlterBaseStations _ => inferInstanceAs (Decidable (_ ∨ _))
  | .updateLocationDatabase => inferInstanceAs (Decidable (_ = _))
  | .setNewLocation _ => inferInstanceAs (Decidable True)

theorem Mirrors.of_eq {s : LocationSession} (h : s.cache = s.table) : s.Mirrors := by
  intro cell
  rw [h]

theorem mirrors_loadOrCreateDatabase (s : LocationSession) (name : Text) :
    (s.loadOrCreateDatabase name).Mirrors := by
  apply Mirrors.of_eq
  rw [cache_loadOrCreateDatabase, table, openTable_loadOrCreateDatabase, Option.getD_some]

theorem Mirrors.refreshObjectCache {s : LocationSession} (h : s.Mirrors) :
    s.refreshObjectCache.Mirrors := by
  cases htable : s.openTable with
  | none =>
    rw [LocationSession.refreshObjectCache, htable]
    exact h
  | some rows =>
    apply Mirrors.of_eq
    rw [cache_refreshObjectCache, table, openTable_refreshObjectCache, htable, Option.getD_some,
      Option.getD_some]

/-- The sightings of the first station that is inserted grow in its row. -/
theorem levels_insertOrAlterBaseStations {rows : List StationRow} (list : ScannedList)
    (h : ∀ cell, (getRow rows cell).map (·.levels) =
      (getRow (LocalAreaDatabase.insertOrAlterBaseStations rows list.stations) cell).map
        (·.levels)) : list.stations = [] := by
  obtain ⟨stations, hscanned⟩ := list
  cases stations with
  | nil => rfl
  | cons station rest =>
    exfalso
    have hsame : sightingsAt rows station.cell = sightingsAt
        (LocalAreaDatabase.insertOrAlterBaseStations rows (station :: rest)) station.cell := by
      have hlevels := congrArg (Option.map fun levels : ℤ × ℤ × ℕ => levels.2.2) (h station.cell)
      rw [Option.map_map, Option.map_map] at hlevels
      exact congrArg (·.getD 0) hlevels
    have hpositive := hscanned station List.mem_cons_self
    rw [sightingsAt_insertOrAlterBaseStations, submittedSightings_cons, if_pos rfl] at hsame
    omega

theorem mirrors_insertOrAlterBaseStations_iff {s : LocationSession} (h : s.Mirrors)
    (list : ScannedList) : (s.insertOrAlterBaseStations list.stations).Mirrors ↔
      s.connection = none ∨ list.stations = [] := by
  have hcache := s.cache_insertOrAlterBaseStations list.stations
  have htable := s.openTable_insertOrAlterBaseStations list.stations
  cases hname : s.connection with
  | none =>
    have hnone : s.openTable = none := by rw [openTable, hname, Option.bind_none]
    refine iff_of_true (fun cell => ?_) (Or.inl rfl)
    rw [hcache, h cell, table, table, htable, hnone, Option.map_none]
  | some name =>
    obtain ⟨rows, hrows⟩ := Option.isSome_iff_exists.1 (s.connected name hname)
    have hopen : s.openTable = some rows := by rw [openTable, hname, Option.bind_some, hrows]
    rw [or_iff_right (by simp)]
    constructor
    · intro hmirrors
      refine @levels_insertOrAlterBaseStations rows list fun cell => ?_
      have hcell := hmirrors cell
      rw [hcache, h cell, table, table, htable, hopen, Option.map_some] at hcell
      exact hcell
    · intro hnil cell
      rw [hcache, h cell, table, table, htable, hopen, hnil]
      rfl

theorem mirrors_step_iff (s : LocationSession) (e : LocationEvent) (h : s.Mirrors) :
    (locationSession.step s e).1.Mirrors ↔ s.Keeps e := by
  cases e with
  | foundBaseStation p => exact iff_of_true h trivial
  | loadProject list => exact iff_of_true h trivial
  | loadOrCreateDatabase name => exact iff_of_true (s.mirrors_loadOrCreateDatabase name) trivial
  | insertOrAlterBaseStations list => exact mirrors_insertOrAlterBaseStations_iff h list
  | updateLocationDatabase =>
    have hopened := s.mirrors_loadOrCreateDatabase s.location
    have hconnection : (s.loadOrCreateDatabase s.location).connection ≠ none := by
      intro hnone
      have htable := s.openTable_loadOrCreateDatabase s.location
      rw [openTable, hnone] at htable
      exact absurd htable (by simp)
    exact (mirrors_insertOrAlterBaseStations_iff hopened s.list).trans (or_iff_right hconnection)
  | setNewLocation newLocation =>
    refine iff_of_true ?_ trivial
    change (s.setNewLocation newLocation).1.Mirrors
    unfold setNewLocation
    split
    · exact (mirrors_loadOrCreateDatabase _ newLocation).refreshObjectCache
    · exact h.refreshObjectCache

/-- Where the cache mirrors the table, the rule judges as it would from the table. -/
theorem Mirrors.rule_eq {s : LocationSession} (h : s.Mirrors) (settings : RuleSettings)
    (arfcn : ℤ) (stations : List BaseStationInformation) :
    locationAreaDatabaseRule settings arfcn stations
        (some (LocalAreaDatabase.refreshObjectCache s.cache)) =
      locationAreaDatabaseRule settings arfcn stations
        (some (LocalAreaDatabase.refreshObjectCache s.table)) := by
  have hstation : ∀ (rows : List StationRow) (cell : ℤ),
      ImsiCatcher.getStation (LocalAreaDatabase.refreshObjectCache rows) cell =
        (getRow rows cell).map fun row => ⟨row.cellID, row.rxmin, row.rxmax⟩ := by
    intro rows cell
    rw [ImsiCatcher.getStation, LocalAreaDatabase.refreshObjectCache, List.find?_map]
    rfl
  rw [locationAreaDatabaseRule, locationAreaDatabaseRule]
  congr 1
  funext item
  rw [hstation, hstation]
  have hcell := h item.cell
  cases hcache : getRow s.cache item.cell with
  | none =>
    rw [hcache] at hcell
    rw [Option.map_eq_none_iff.1 hcell.symm]
  | some entry =>
    rw [hcache] at hcell
    obtain ⟨row, hrow, hlevels⟩ := Option.map_eq_some_iff.1 hcell.symm
    simp only [StationRow.levels, Prod.mk.injEq] at hlevels
    rw [hrow, Option.map_some, Option.map_some]
    dsimp only
    rw [hlevels.1, hlevels.2.1]

/-- The cache mirrors the table all the time just when no station is inserted. -/
theorem cache_mirrors_iff (files : Text → Option (List StationRow)) (es : List LocationEvent) :
    (∀ n, (locationSession.run { files := files } (es.take n)).1.Mirrors) ↔
      locationSession.Along LocationSession.Keeps { files := files } es :=
  locationSession.reached_iff_along mirrors_step_iff (fun _ => rfl)

/-- The first update of a new database leaves the cache empty. -/
theorem cache_falls_behind : ¬ ∀ (files : Text → Option (List StationRow))
    (es : List LocationEvent) (n : ℕ),
    (locationSession.run { files := files } (es.take n)).1.Mirrors := by
  intro h
  have hcell := h (fun _ => none) [.foundBaseStation cellOne, .updateLocationDatabase] 2
    cellOne.station.cell
  exact absurd hcell (by decide)

end LocationSession

end ImsiCatcher

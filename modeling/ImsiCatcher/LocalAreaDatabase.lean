import ImsiCatcher.Rules
import Mathlib.Order.Bounds.Basic

/-!
# The local area database

The table has no key constraint: a station is looked up by its cell id, and is inserted or
altered. The level bounds of a row are kept by hand. The rule reads a cache that is filled
from the table.
-/

namespace ImsiCatcher

/-- A row of the table `basestations`. -/
structure StationRow where
  cellID : ℤ
  country : Text
  provider : Text
  arfcn : ℤ
  bsic : Text
  lac : ℤ
  rxmin : ℤ
  rxmax : ℤ
  sightings : ℕ
  deriving DecidableEq

namespace LocalAreaDatabase

def createBaseTable : List StationRow := []

def insertStation (rows : List StationRow) (station : BaseStationInformation) :
    List StationRow :=
  rows ++ [{
    cellID := station.cell
    country := station.country
    provider := station.provider
    arfcn := station.arfcn
    bsic := station.bsic
    lac := station.lac
    rxmin := station.rxlev
    rxmax := station.rxlev
    sightings := station.timesScanned }]

/-- Every row of the cell id is updated. -/
def alterStation (rows : List StationRow) (station : BaseStationInformation)
    (oldRmin oldRmax : ℤ) (oldSightings : ℕ) : List StationRow :=
  let currentRx := station.rxlev
  let rmin := if currentRx < oldRmin then currentRx else oldRmin
  let rmax := if oldRmax < currentRx then currentRx else oldRmax
  let sightings := oldSightings + station.timesScanned
  rows.map fun row =>
    if row.cellID = station.cell then
      { row with rxmin := rmin, rxmax := rmax, sightings := sightings }
    else row

/-- `_get_station`: the first row of the cell id. -/
def getRow (rows : List StationRow) (cellID : ℤ) : Option StationRow :=
  rows.find? fun row => row.cellID = cellID

def insertOrAlterBaseStation (rows : List StationRow) (station : BaseStationInformation) :
    List StationRow :=
  match getRow rows station.cell with
  | some row => alterStation rows station row.rxmin row.rxmax row.sightings
  | none => insertStation rows station

def insertOrAlterBaseStations (rows : List StationRow) (stations : List BaseStationInformation) :
    List StationRow := stations.foldl insertOrAlterBaseStation rows

def refreshObjectCache (rows : List StationRow) : List LACDBEntry :=
  rows.map fun row => ⟨row.cellID, row.rxmin, row.rxmax⟩

def after (calls : List (List BaseStationInformation)) : List StationRow :=
  calls.foldl insertOrAlterBaseStations createBaseTable

end LocalAreaDatabase

def submittedLevels (submitted : List BaseStationInformation) (cell : ℤ) : List ℤ :=
  (submitted.filter (·.cell = cell)).map (·.rxlev)

theorem submittedLevels_concat (submitted : List BaseStationInformation)
    (station : BaseStationInformation) (cell : ℤ) :
    submittedLevels (submitted ++ [station]) cell =
      submittedLevels submitted cell ++ if station.cell = cell then [station.rxlev] else [] := by
  rw [submittedLevels, List.filter_append, List.map_append, submittedLevels]
  by_cases hcell : station.cell = cell <;> simp [hcell]

/-- One row for each cell id that was submitted, with the hull of its levels. -/
structure Hull (submitted : List BaseStationInformation) (rows : List StationRow) : Prop where
  single : (rows.map (·.cellID)).Nodup
  stored : ∀ cell, cell ∈ rows.map (·.cellID) ↔ cell ∈ submitted.map (·.cell)
  least : ∀ row ∈ rows, IsLeast { level | level ∈ submittedLevels submitted row.cellID } row.rxmin
  greatest : ∀ row ∈ rows,
    IsGreatest { level | level ∈ submittedLevels submitted row.cellID } row.rxmax

open LocalAreaDatabase

theorem submittedLevels_eq_nil {submitted : List BaseStationInformation} {cell : ℤ}
    (h : cell ∉ submitted.map (·.cell)) : submittedLevels submitted cell = [] := by
  rw [submittedLevels, List.map_eq_nil_iff, List.filter_eq_nil_iff]
  intro station hstation hcell
  exact h (List.mem_map.2 ⟨station, hstation, by simpa using hcell⟩)

theorem mem_submittedLevels_concat {submitted : List BaseStationInformation}
    {station : BaseStationInformation} {cell : ℤ} (h : station.cell = cell) :
    { level | level ∈ submittedLevels (submitted ++ [station]) cell } =
      insert station.rxlev { level | level ∈ submittedLevels submitted cell } := by
  ext level
  rw [submittedLevels_concat, if_pos h]
  simp [or_comm]

theorem submittedLevels_concat_of_ne {submitted : List BaseStationInformation}
    {station : BaseStationInformation} {cell : ℤ} (h : station.cell ≠ cell) :
    submittedLevels (submitted ++ [station]) cell = submittedLevels submitted cell := by
  rw [submittedLevels_concat, if_neg h, List.append_nil]

theorem hull_insertStation {submitted : List BaseStationInformation} {rows : List StationRow}
    (h : Hull submitted rows) {station : BaseStationInformation}
    (hnew : station.cell ∉ rows.map (·.cellID)) :
    Hull (submitted ++ [station]) (insertStation rows station) := by
  have hnone := submittedLevels_eq_nil fun hcell => hnew ((h.stored station.cell).2 hcell)
  have hold : ∀ row ∈ rows, station.cell ≠ row.cellID := by
    rintro row hrow heq
    exact hnew (List.mem_map.2 ⟨row, hrow, heq.symm⟩)
  have hlevels : { level | level ∈ submittedLevels (submitted ++ [station]) station.cell } =
      {station.rxlev} := by
    rw [mem_submittedLevels_concat rfl, hnone]
    simp
  constructor
  · rw [insertStation, List.map_append, List.map_singleton]
    exact List.nodup_append.2 ⟨h.single, List.nodup_singleton _, by
      intro a ha b hb heq
      obtain rfl : b = station.cell := List.mem_singleton.1 hb
      exact hnew (heq ▸ ha)⟩
  · intro cell
    simp only [insertStation, List.map_append, List.mem_append, h.stored, List.map_singleton]
  · intro row hrow
    rcases List.mem_append.1 hrow with hrow | hrow
    · rw [submittedLevels_concat_of_ne (hold row hrow)]
      exact h.least row hrow
    · rw [List.mem_singleton.1 hrow, hlevels]
      exact isLeast_singleton
  · intro row hrow
    rcases List.mem_append.1 hrow with hrow | hrow
    · rw [submittedLevels_concat_of_ne (hold row hrow)]
      exact h.greatest row hrow
    · rw [List.mem_singleton.1 hrow, hlevels]
      exact isGreatest_singleton

theorem hull_alterStation {submitted : List BaseStationInformation} {rows : List StationRow}
    (h : Hull submitted rows) {station : BaseStationInformation} {old : StationRow}
    (hold : old ∈ rows) (hcell : old.cellID = station.cell) :
    Hull (submitted ++ [station])
      (alterStation rows station old.rxmin old.rxmax old.sightings) := by
  have hids : (alterStation rows station old.rxmin old.rxmax old.sightings).map (·.cellID) =
      rows.map (·.cellID) := by
    rw [alterStation, List.map_map]
    refine List.map_congr_left fun row _ => ?_
    dsimp only [Function.comp_apply]
    split <;> rfl
  have hmin : (if station.rxlev < old.rxmin then station.rxlev else old.rxmin) =
      min station.rxlev old.rxmin := by
    rw [min_def]
    split_ifs <;> omega
  have hmax : (if old.rxmax < station.rxlev then station.rxlev else old.rxmax) =
      max station.rxlev old.rxmax := by
    rw [max_def]
    split_ifs <;> omega
  constructor
  · rw [hids]
    exact h.single
  · intro cell
    rw [hids, h.stored, List.map_append, List.mem_append]
    constructor
    · exact Or.inl
    · rintro (hmem | hmem)
      · exact hmem
      · rw [List.map_singleton, List.mem_singleton] at hmem
        rw [hmem, ← hcell]
        exact (h.stored old.cellID).1 (List.mem_map_of_mem hold)
  · intro row hrow
    obtain ⟨row, hmem, rfl⟩ := List.mem_map.1 hrow
    by_cases hthis : row.cellID = station.cell
    · rw [if_pos hthis, hthis, mem_submittedLevels_concat rfl, hmin, ← hcell]
      exact (h.least old hold).insert station.rxlev
    · rw [if_neg hthis, submittedLevels_concat_of_ne fun heq => hthis heq.symm]
      exact h.least row hmem
  · intro row hrow
    obtain ⟨row, hmem, rfl⟩ := List.mem_map.1 hrow
    by_cases hthis : row.cellID = station.cell
    · rw [if_pos hthis, hthis, mem_submittedLevels_concat rfl, hmax, ← hcell]
      exact (h.greatest old hold).insert station.rxlev
    · rw [if_neg hthis, submittedLevels_concat_of_ne fun heq => hthis heq.symm]
      exact h.greatest row hmem

theorem hull_insertOrAlterBaseStation {submitted : List BaseStationInformation}
    {rows : List StationRow} (h : Hull submitted rows) (station : BaseStationInformation) :
    Hull (submitted ++ [station]) (insertOrAlterBaseStation rows station) := by
  rw [insertOrAlterBaseStation]
  cases hfound : getRow rows station.cell with
  | none =>
    refine hull_insertStation h fun hmem => ?_
    obtain ⟨row, hrow, hcell⟩ := List.mem_map.1 hmem
    exact List.find?_eq_none.1 hfound row hrow (by simpa using hcell)
  | some old =>
    have hcell : old.cellID = station.cell := by
      have hsome := List.find?_some hfound
      simpa using hsome
    exact hull_alterStation h (List.mem_of_find?_eq_some hfound) hcell

theorem hull_foldl {submitted : List BaseStationInformation} {rows : List StationRow}
    (h : Hull submitted rows) (stations : List BaseStationInformation) :
    Hull (submitted ++ stations) (insertOrAlterBaseStations rows stations) := by
  induction stations generalizing submitted rows with
  | nil => rwa [List.append_nil]
  | cons station rest ih =>
    have hnext := ih (hull_insertOrAlterBaseStation h station)
    rwa [List.append_assoc] at hnext

theorem hull_after (calls : List (List BaseStationInformation)) :
    Hull calls.flatten (LocalAreaDatabase.after calls) := by
  have hempty : Hull [] createBaseTable :=
    ⟨List.nodup_nil, fun _ => Iff.rfl, fun _ h => absurd h List.not_mem_nil,
      fun _ h => absurd h List.not_mem_nil⟩
  have hall := hull_foldl hempty calls.flatten
  rwa [insertOrAlterBaseStations, List.foldl_flatten] at hall

/-- The rule answers `Ok` for a cell that is stored, at a level within the submitted ones. -/
def AcceptsHull (submitted : List BaseStationInformation) (cache : List LACDBEntry) : Prop :=
  ∀ (settings : RuleSettings) (arfcn : ℤ) (stations : List BaseStationInformation)
    (item : BaseStationInformation), recordOf arfcn stations = some item →
    ∀ low ∈ submittedLevels submitted item.cell, ∀ high ∈ submittedLevels submitted item.cell,
      low ≤ item.rxlev → item.rxlev ≤ high →
      locationAreaDatabaseRule settings arfcn stations (some cache) = some .ok

theorem Hull.accepts {submitted : List BaseStationInformation} {rows : List StationRow}
    (h : Hull submitted rows) : AcceptsHull submitted (refreshObjectCache rows) := by
  intro settings arfcn stations item hitem low hlow high hhigh hle hge
  have hstored : item.cell ∈ rows.map (·.cellID) := by
    rw [h.stored]
    by_contra hmem
    rw [submittedLevels_eq_nil hmem] at hlow
    exact absurd hlow List.not_mem_nil
  obtain ⟨row, hrow, hcell⟩ := List.mem_map.1 hstored
  cases hfound : getStation (refreshObjectCache rows) item.cell with
  | none =>
    have hnone := List.find?_eq_none.1 hfound ⟨row.cellID, row.rxmin, row.rxmax⟩
      (List.mem_map_of_mem hrow)
    exact absurd hcell (by simpa using hnone)
  | some entry =>
    obtain ⟨stored, hmem, rfl⟩ := List.mem_map.1 (List.mem_of_find?_eq_some hfound)
    have hthis : stored.cellID = item.cell := by
      have hsome := List.find?_some hfound
      simpa using hsome
    have hmin : (stored.rxmin : ℚ) ≤ item.rxlev := by
      exact_mod_cast ((h.least stored hmem).2 (hthis.symm ▸ hlow)).trans hle
    have hmax : (item.rxlev : ℚ) ≤ stored.rxmax := by
      exact_mod_cast hge.trans ((h.greatest stored hmem).2 (hthis.symm ▸ hhigh))
    have htolerance := abs_nonneg ((stored.rxmin : ℚ) * settings.dbRxThreshold)
    have htolerance' := abs_nonneg ((stored.rxmax : ℚ) * settings.dbRxThreshold)
    rw [locationAreaDatabaseRule, hitem, Option.map_some, hfound]
    dsimp only
    rw [if_pos ⟨by linarith, by linarith⟩]

/-- After any calls the database holds the hull of the levels that it was taught, and from the
refreshed cache the rule accepts what lies within. -/
theorem localAreaDatabase_hull (calls : List (List BaseStationInformation)) :
    Hull calls.flatten (LocalAreaDatabase.after calls) ∧
      AcceptsHull calls.flatten (refreshObjectCache (LocalAreaDatabase.after calls)) :=
  ⟨hull_after calls, (hull_after calls).accepts⟩

end ImsiCatcher

import ImsiCatcher.LocationFiles
import Mathlib.Data.List.DropRight

/-!
# What the sightings column counts

A record counts its sightings since it was listed, and an update adds this count to the row
of the cell. The first update that finds a station is therefore right, and each later one
counts the earlier sightings again.
-/

namespace ImsiCatcher
open LocalAreaDatabase

/-- A survey of one location: stations are sighted, and the database is updated. -/
inductive SurveyEvent where
  | addStation (p : ParsedStation)
  | updateLocationDatabase

namespace SurveyEvent

def operation : SurveyEvent → LocationEvent
  | addStation p => .foundBaseStation p
  | updateLocationDatabase => .updateLocationDatabase

def sighting : SurveyEvent → Option ParsedStation
  | addStation p => some p
  | updateLocationDatabase => none

end SurveyEvent

def survey : Machine LocationSession SurveyEvent ControllerCall :=
  ⟨fun s e => s.step e.operation⟩

def sightingsIn (es : List SurveyEvent) : List ParsedStation := es.filterMap (·.sighting)

def upToUpdate (es : List SurveyEvent) : List SurveyEvent :=
  es.rdropWhile fun e => e.sighting.isSome

def cellSightings (es : List SurveyEvent) (cell : ℤ) : ℕ :=
  (sightingsIn es).countP (·.station.cell = cell)

def Steady (parsed : List ParsedStation) : Prop :=
  ∀ p ∈ parsed, ∀ q ∈ parsed, p.station.arfcn = q.station.arfcn → p.station.cell = q.station.cell

instance Steady.decidable (parsed : List ParsedStation) : Decidable (Steady parsed) :=
  inferInstanceAs (Decidable (∀ p ∈ parsed, ∀ q ∈ parsed, _))

namespace LocationSession

/-- The table of the location, which is empty as long as there is no file. -/
def rows (s : LocationSession) : List StationRow := (s.files s.location).getD createBaseTable

def surveyed (location : Text) (es : List SurveyEvent) : LocationSession :=
  (survey.run { location := location } es).1

/-- The column counts the sightings up to the latest update, and an update without a new
sighting has changed no row. -/
structure Counted (location : Text) (es : List SurveyEvent) : Prop where
  counted : ∀ row ∈ (surveyed location es).rows,
    row.sightings = cellSightings (upToUpdate es) row.cellID
  repeated : ∀ before, es = before ++ [.updateLocationDatabase, .updateLocationDatabase] →
    (surveyed location es).rows = (surveyed location (before ++ [.updateLocationDatabase])).rows

def FindsNoRows (s : LocationSession) : SurveyEvent → Prop
  | .addStation _ => True
  | .updateLocationDatabase => s.rows = []

instance (s : LocationSession) (e : SurveyEvent) : Decidable (s.FindsNoRows e) :=
  match e with
  | .addStation _ => inferInstanceAs (Decidable True)
  | .updateLocationDatabase => inferInstanceAs (Decidable (_ = _))

theorem insertOrAlterBaseStations_frame (s : LocationSession)
    (stations : List BaseStationInformation) :
    (s.insertOrAlterBaseStations stations).connection = s.connection ∧
      (s.insertOrAlterBaseStations stations).location = s.location ∧
      (s.insertOrAlterBaseStations stations).list = s.list := by
  unfold insertOrAlterBaseStations
  split
  · exact ⟨rfl, rfl, rfl⟩
  · exact ⟨rfl, rfl, rfl⟩

/-- An update opens the file of the location and submits the list to it. -/
theorem rows_updateLocationDatabase (s : LocationSession) :
    s.updateLocationDatabase.1.rows =
      LocalAreaDatabase.insertOrAlterBaseStations s.rows s.list.stations := by
  have hopen := s.openTable_loadOrCreateDatabase s.location
  have hloaded : (s.loadOrCreateDatabase s.location).connection = some s.location ∧
      (s.loadOrCreateDatabase s.location).location = s.location := by
    rw [loadOrCreateDatabase, refreshObjectCache_eq]
    exact ⟨rfl, rfl⟩
  have htable := (s.loadOrCreateDatabase s.location).openTable_insertOrAlterBaseStations
    s.list.stations
  obtain ⟨hconnection, hlocation, -⟩ :=
    (s.loadOrCreateDatabase s.location).insertOrAlterBaseStations_frame s.list.stations
  rw [hopen, Option.map_some, openTable, hconnection, hloaded.1, Option.bind_some] at htable
  rw [updateLocationDatabase, rows, hlocation, hloaded.2, htable, Option.getD_some, rows]

theorem updateLocationDatabase_frame (s : LocationSession) :
    s.updateLocationDatabase.1.location = s.location ∧
      s.updateLocationDatabase.1.list = s.list := by
  obtain ⟨-, hlocation, hlist⟩ :=
    (s.loadOrCreateDatabase s.location).insertOrAlterBaseStations_frame s.list.stations
  rw [updateLocationDatabase, hlocation, hlist, loadOrCreateDatabase, refreshObjectCache_eq]
  exact ⟨rfl, rfl⟩

end LocationSession

/-! ### The ids and the sightings of the rows -/

section Rows
variable {rows : List StationRow}

structure SoundRows (rows : List StationRow) : Prop where
  nodup : (rows.map (·.cellID)).Nodup
  positive : ∀ row ∈ rows, 0 < row.sightings

theorem map_cellID_insertOrAlterBaseStation (rows : List StationRow)
    (station : BaseStationInformation) :
    (insertOrAlterBaseStation rows station).map (·.cellID) =
      if station.cell ∈ rows.map (·.cellID) then rows.map (·.cellID)
      else rows.map (·.cellID) ++ [station.cell] := by
  rw [insertOrAlterBaseStation]
  cases hfound : getRow rows station.cell with
  | none =>
    dsimp only
    rw [if_neg (Keyed.find?_eq_none.1 hfound), insertStation, List.map_append, List.map_singleton]
  | some old =>
    have hmem : station.cell ∈ rows.map (·.cellID) := by
      by_contra hnot
      have hnone : getRow rows station.cell = none := Keyed.find?_eq_none.2 hnot
      rw [hfound] at hnone
      exact absurd hnone (by simp)
    dsimp only
    rw [if_pos hmem, alterStation, List.map_map]
    refine List.map_congr_left fun row _ => ?_
    dsimp only [Function.comp_apply]
    split <;> rfl

theorem mem_map_cellID_insertOrAlterBaseStations (rows : List StationRow)
    (stations : List BaseStationInformation) (cell : ℤ) :
    cell ∈ (insertOrAlterBaseStations rows stations).map (·.cellID) ↔
      cell ∈ rows.map (·.cellID) ∨ cell ∈ stations.map (·.cell) := by
  induction stations generalizing rows with
  | nil => simp [insertOrAlterBaseStations]
  | cons station rest ih =>
    have hnext := ih (insertOrAlterBaseStation rows station)
    rw [map_cellID_insertOrAlterBaseStation] at hnext
    refine hnext.trans ?_
    rw [List.map_cons, List.mem_cons, ← or_assoc]
    refine or_congr_left ?_
    by_cases hmem : station.cell ∈ rows.map (·.cellID)
    · rw [if_pos hmem, or_iff_left_of_imp]
      exact fun heq => heq ▸ hmem
    · rw [if_neg hmem, List.mem_append, List.mem_singleton]

theorem SoundRows.insertOrAlterBaseStation (h : SoundRows rows)
    {station : BaseStationInformation} (hscanned : 0 < station.timesScanned) :
    SoundRows (insertOrAlterBaseStation rows station) := by
  constructor
  · rw [map_cellID_insertOrAlterBaseStation]
    by_cases hmem : station.cell ∈ rows.map (·.cellID)
    · rw [if_pos hmem]
      exact h.nodup
    · rw [if_neg hmem, List.nodup_append]
      refine ⟨h.nodup, List.nodup_singleton _, fun a ha b hb heq => hmem ?_⟩
      rwa [← List.mem_singleton.1 hb, ← heq]
  · intro row hrow
    rw [LocalAreaDatabase.insertOrAlterBaseStation] at hrow
    split at hrow
    · rename_i old _
      obtain ⟨row', hrow', rfl⟩ := List.mem_map.1 hrow
      split
      · exact Nat.lt_of_lt_of_le hscanned (Nat.le_add_left _ old.sightings)
      · exact h.positive row' hrow'
    · rcases List.mem_append.1 hrow with hrow | hrow
      · exact h.positive row hrow
      · rw [List.mem_singleton.1 hrow]
        exact hscanned

theorem SoundRows.insertOrAlterBaseStations (h : SoundRows rows)
    {stations : List BaseStationInformation}
    (hscanned : ∀ station ∈ stations, 0 < station.timesScanned) :
    SoundRows (insertOrAlterBaseStations rows stations) := by
  induction stations generalizing rows with
  | nil => exact h
  | cons station rest ih =>
    exact ih (h.insertOrAlterBaseStation (hscanned station List.mem_cons_self))
      fun other hother => hscanned other (List.mem_cons_of_mem _ hother)

theorem SoundRows.sightings_eq (h : SoundRows rows) {row : StationRow} (hrow : row ∈ rows) :
    row.sightings = sightingsAt rows row.cellID := by
  have hfound : getRow rows row.cellID = some row := (Keyed.find?_eq_some h.nodup).2 ⟨hrow, rfl⟩
  rw [sightingsAt, hfound]
  rfl

end Rows

/-! ### The sightings of the list -/

theorem submittedSightings_addStation {stations : List BaseStationInformation}
    {station : BaseStationInformation} (hone : station.timesScanned = 1)
    (hcell : ∀ item ∈ stations, item.arfcn = station.arfcn → item.cell = station.cell) (cell : ℤ) :
    submittedSightings (addStation stations station) cell =
      submittedSightings stations cell + if station.cell = cell then 1 else 0 := by
  induction stations with
  | nil =>
    rw [addStation, submittedSightings_cons, Nat.add_comm]
    exact congrArg (_ + if station.cell = cell then · else 0) hone
  | cons item rest ih =>
    rw [addStation]
    by_cases harfcn : item.arfcn = station.arfcn
    · have hsame := hcell item List.mem_cons_self harfcn
      rw [if_pos harfcn, submittedSightings_cons, submittedSightings_cons, hsame]
      change (if station.cell = cell then item.timesScanned + 1 else 0) + _ = _
      by_cases hthis : station.cell = cell
      · rw [if_pos hthis, if_pos hthis, if_pos hthis]
        omega
      · rw [if_neg hthis, if_neg hthis, if_neg hthis, Nat.add_zero]
    · rw [if_neg harfcn, submittedSightings_cons, submittedSightings_cons,
        ih fun other hother => hcell other (List.mem_cons_of_mem _ hother), Nat.add_assoc]

/-- The records of a cell count its sightings, where the cell ids do not change. -/
theorem submittedSightings_discover {parsed : List ParsedStation} (h : Steady parsed) (cell : ℤ) :
    submittedSightings (discover parsed) cell = parsed.countP (·.station.cell = cell) := by
  induction parsed using List.reverseRecOn with
  | nil => rfl
  | append_singleton parsed p ih =>
    have hbefore : Steady parsed := fun q hq q' hq' =>
      h q (List.mem_append_left _ hq) q' (List.mem_append_left _ hq')
    rw [discover_concat, submittedSightings_addStation p.timesScanned, ih hbefore,
      List.countP_append, List.countP_singleton]
    · simp only [decide_eq_true_eq]
    · intro item hitem harfcn
      obtain ⟨-, latest, hlatest, hshows⟩ := (discover_latest parsed).2.2 item hitem
      obtain ⟨hmem, hof⟩ := List.mem_filter.1 (List.mem_of_getLast? hlatest)
      rw [hshows.cell]
      exact h latest (List.mem_append_left _ hmem) p
        (List.mem_append_right _ (List.mem_singleton_self p))
        ((of_decide_eq_true hof).trans harfcn)

/-! ### Surveys -/

namespace LocationSession
variable {location : Text} {es : List SurveyEvent}

theorem surveyed_concat (location : Text) (es : List SurveyEvent) (e : SurveyEvent) :
    surveyed location (es ++ [e]) = (survey.step (surveyed location es) e).1 := by
  rw [surveyed, Machine.run_append]
  rfl

theorem sightingsIn_concat (es : List SurveyEvent) (e : SurveyEvent) :
    sightingsIn (es ++ [e]) = sightingsIn es ++ e.sighting.toList := by
  rw [sightingsIn, List.filterMap_append, sightingsIn]
  cases e <;> rfl

theorem surveyed_list (location : Text) (es : List SurveyEvent) :
    (surveyed location es).list.stations = discover (sightingsIn es) := by
  induction es using List.reverseRecOn with
  | nil => rfl
  | append_singleton es e ih =>
    rw [surveyed_concat, sightingsIn_concat]
    cases e with
    | addStation p =>
      rw [SurveyEvent.sighting, Option.toList_some, discover_concat, ← ih]
      rfl
    | updateLocationDatabase =>
      rw [SurveyEvent.sighting, Option.toList_none, List.append_nil, ← ih]
      exact congrArg (·.stations) (surveyed location es).updateLocationDatabase_frame.2

theorem surveyed_update (location : Text) (es : List SurveyEvent) :
    (surveyed location (es ++ [.updateLocationDatabase])).rows =
      LocalAreaDatabase.insertOrAlterBaseStations (surveyed location es).rows
        (discover (sightingsIn es)) := by
  rw [surveyed_concat, ← surveyed_list location es]
  exact (surveyed location es).rows_updateLocationDatabase

theorem surveyed_sound (location : Text) (es : List SurveyEvent) :
    SoundRows (surveyed location es).rows := by
  induction es using List.reverseRecOn with
  | nil => exact ⟨List.nodup_nil, fun _ hrow => absurd hrow List.not_mem_nil⟩
  | append_singleton es e ih =>
    cases e with
    | addStation p =>
      rw [surveyed_concat]
      exact ih
    | updateLocationDatabase =>
      rw [surveyed_update, ← surveyed_list location es]
      exact ih.insertOrAlterBaseStations (surveyed location es).list.scanned

/-- What an update leaves in a row: the old count, and the sightings of the cell so far. -/
theorem sightings_update (hsteady : Steady (sightingsIn es)) {row : StationRow}
    (hrow : row ∈ (surveyed location (es ++ [.updateLocationDatabase])).rows) :
    row.sightings = sightingsAt (surveyed location es).rows row.cellID +
      cellSightings es row.cellID := by
  rw [(surveyed_sound location _).sightings_eq hrow, surveyed_update,
    sightingsAt_insertOrAlterBaseStations, submittedSightings_discover hsteady, cellSightings]

theorem counted_update_iff (hsteady : Steady (sightingsIn es)) :
    Counted location (es ++ [.updateLocationDatabase]) ↔ (surveyed location es).rows = [] := by
  have hup : upToUpdate (es ++ [.updateLocationDatabase]) = es ++ [.updateLocationDatabase] :=
    List.rdropWhile_concat_neg _ _ _ (by simp [SurveyEvent.sighting])
  have hcell : ∀ cell, cellSightings (es ++ [.updateLocationDatabase]) cell =
      cellSightings es cell := by
    intro cell
    rw [cellSightings, sightingsIn_concat, SurveyEvent.sighting, Option.toList_none,
      List.append_nil, cellSightings]
  constructor
  · intro hcounted
    by_contra hne
    obtain ⟨old, hold⟩ := List.exists_mem_of_ne_nil _ hne
    have hid : old.cellID ∈
        (surveyed location (es ++ [.updateLocationDatabase])).rows.map (·.cellID) := by
      rw [surveyed_update, mem_map_cellID_insertOrAlterBaseStations]
      exact Or.inl (List.mem_map_of_mem hold)
    obtain ⟨row, hrow, hsame⟩ := List.mem_map.1 hid
    have hnew := hcounted.counted row hrow
    have hpositive := (surveyed_sound location es).positive old hold
    rw [hup, hcell, sightings_update hsteady hrow, hsame,
      ← (surveyed_sound location es).sightings_eq hold] at hnew
    omega
  · intro hnil
    refine ⟨fun row hrow => ?_, fun before hbefore => ?_⟩
    · rw [hup, hcell, sightings_update hsteady hrow, hnil]
      exact Nat.zero_add _
    · -- the update before has found nothing to insert, and so does this one
      have hes : es = before ++ [.updateLocationDatabase] := by
        rw [← List.append_cancel_right_eq es [.updateLocationDatabase], hbefore,
          List.append_assoc]
        rfl
      have hnone : discover (sightingsIn es) = [] := by
        have hsightings : sightingsIn es = sightingsIn before := by
          rw [hes, sightingsIn_concat, SurveyEvent.sighting, Option.toList_none, List.append_nil]
        by_contra hne
        obtain ⟨station, hstation⟩ := List.exists_mem_of_ne_nil _ hne
        have hid : station.cell ∈ (surveyed location es).rows.map (·.cellID) := by
          rw [hes, surveyed_update, mem_map_cellID_insertOrAlterBaseStations, ← hsightings]
          exact Or.inr (List.mem_map_of_mem hstation)
        rw [hnil] at hid
        exact absurd hid List.not_mem_nil
      rw [surveyed_update, hnone, ← hes]
      rfl

theorem Counted.addStation (h : Counted location es) (p : ParsedStation) :
    Counted location (es ++ [.addStation p]) := by
  have hup : upToUpdate (es ++ [.addStation p]) = upToUpdate es :=
    List.rdropWhile_concat_pos _ _ _ rfl
  constructor
  · rw [surveyed_concat, hup]
    exact h.counted
  · intro before hbefore
    have hlast := congrArg List.getLast? hbefore
    rw [List.getLast?_concat] at hlast
    simp at hlast

/-- The column counts each sighting once just when no update finds a row already. -/
theorem sightings_counted_iff (location : Text) (es : List SurveyEvent)
    (hsteady : Steady (sightingsIn es)) :
    (∀ n, Counted location (es.take n)) ↔
      survey.Along FindsNoRows { location := location } es := by
  refine survey.prefixes_iff_along ?_ fun before e hfront hbefore => ?_
  · refine ⟨fun _ hrow => absurd hrow List.not_mem_nil, fun before hbefore => ?_⟩
    simp at hbefore
  cases e with
  | addStation p => exact iff_of_true (hbefore.addStation p) trivial
  | updateLocationDatabase =>
    have hsub : sightingsIn before ⊆ sightingsIn es :=
      (((List.prefix_append before _).trans hfront).filterMap _).subset
    exact counted_update_iff fun p hp q hq => hsteady p (hsub hp) q (hsub hq)

theorem sightings_counted_iff_once : Counted "office".toList
    [.addStation cellOne, .addStation cellOne, .updateLocationDatabase] :=
  (sightings_counted_iff "office".toList
    [.addStation cellOne, .addStation cellOne, .updateLocationDatabase] (by decide)).2
    (by decide) 3

/-- A station is sighted once, and the second of two updates counts it again. -/
theorem update_counts_again : ¬ ∀ (location : Text) (es : List SurveyEvent),
    Steady (sightingsIn es) → ∀ n, Counted location (es.take n) := by
  intro h
  have hcounted := (h "office".toList
    [.addStation cellOne, .updateLocationDatabase, .updateLocationDatabase] (by decide) 3).repeated
    [.addStation cellOne] rfl
  have hsightings := congrArg (fun rows => rows.map (·.sightings)) hcounted
  exact absurd hsightings (by decide)

end LocationSession

end ImsiCatcher

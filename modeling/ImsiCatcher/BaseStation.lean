import ImsiCatcher.Text
import Mathlib.Data.List.Nodup
import Mathlib.Data.Rat.Init

/-!
# Station records and their list

`pyCatcherModel.py`. A record is made by the parser of a sighting, and kept in a list that
holds one record for each ARFCN. The times of discovery are left out.
-/

namespace ImsiCatcher

inductive RuleResult where
  | ok
  | warning
  | critical
  | ignore
  deriving DecidableEq, Repr

inductive CIDDatabases where
  | none
  | google
  | opencid
  | localDb
  deriving DecidableEq, Repr

inductive CellIDDBStatus where
  | confirmed
  | approximated
  | error
  | notLookedUp
  | notInDb
  deriving DecidableEq, Repr

structure PchResult where
  pagings : ℕ
  assignmentsHopping : ℕ
  assignmentsNonHopping : ℕ
  deriving DecidableEq, Repr

/-- `BaseStationInformation`; an evaluation that is missing is shown as `NYE`. -/
structure BaseStationInformation where
  country : Text := "Nowhere".toList
  provider : Text := "Carry".toList
  arfcn : ℤ := 0
  rxlev : ℤ := 0
  timesScanned : ℕ := 1
  systemInfoT1 : List Text := []
  systemInfoT3 : List Text := []
  systemInfoT4 : List Text := []
  systemInfoT2 : List Text := []
  systemInfoT2bis : List Text := []
  systemInfoT2ter : List Text := []
  neighbours : List ℤ := []
  found : Bool := false
  bsic : Text := []
  lac : ℤ := 0
  cell : ℤ := 0
  evaluation : Option RuleResult := none
  latitude : ℚ := 0
  longitude : ℚ := 0
  dbStatus : CellIDDBStatus := .notLookedUp
  dbProvider : CIDDatabases := .none
  immAssHop : ℕ := 0
  immAssNonHop : ℕ := 0
  pagings : ℕ := 0
  pchScanDone : Bool := false
  deriving DecidableEq

structure CellIdentity where
  country : Text
  provider : Text
  lac : ℤ
  cell : ℤ
  deriving DecidableEq

namespace BaseStationInformation

def identity (station : BaseStationInformation) : CellIdentity :=
  ⟨station.country, station.provider, station.lac, station.cell⟩

/-- What `add_station` writes over a record that is there already. -/
def overwrite (item station : BaseStationInformation) : BaseStationInformation :=
  { item with
    timesScanned := item.timesScanned + 1
    rxlev := station.rxlev
    lac := station.lac
    cell := station.cell
    bsic := station.bsic
    neighbours := station.neighbours
    country := station.country
    provider := station.provider
    systemInfoT1 := station.systemInfoT1
    systemInfoT3 := station.systemInfoT3
    systemInfoT4 := station.systemInfoT4
    systemInfoT2 := station.systemInfoT2
    systemInfoT2bis := station.systemInfoT2bis
    systemInfoT2ter := station.systemInfoT2ter }

end BaseStationInformation

/-- A record as the parser of the scanner's output makes it: neither looked up nor scanned. -/
structure Sighting where
  station : BaseStationInformation
  notLookedUp : station.dbStatus = .notLookedUp
  notScanned : station.pchScanDone = false

def addStation (stations : List BaseStationInformation) (station : BaseStationInformation) :
    List BaseStationInformation :=
  match stations with
  | [] => [{ station with found := true }]
  | item :: rest =>
    if item.arfcn = station.arfcn then item.overwrite station :: rest
    else item :: addStation rest station

def strongestStation (stations : List BaseStationInformation) (provider : Text) :
    Option BaseStationInformation :=
  (stations.foldl (fun best station =>
    if station.provider = provider ∧ best.1 < station.rxlev then (station.rxlev, some station)
    else best) ((-1000 : ℤ), none)).2

/-- `CellIDDatabaseRule.check`; nothing for an ARFCN that is not listed. -/
def cellIDDatabaseRule (arfcn : ℤ) (stations : List BaseStationInformation) : Option RuleResult :=
  (stations.find? fun item => item.arfcn = arfcn).map fun item =>
    match item.dbStatus with
    | .notLookedUp => .ignore
    | .confirmed => .ok
    | _ => .critical

theorem mem_addStation {stations : List BaseStationInformation}
    {station r : BaseStationInformation} (h : r ∈ addStation stations station) :
    r ∈ stations ∨ r = { station with found := true } ∨
      ∃ item ∈ stations, item.arfcn = station.arfcn ∧ r = item.overwrite station := by
  induction stations with
  | nil => exact Or.inr (Or.inl (List.mem_singleton.1 h))
  | cons item rest ih =>
    rw [addStation] at h
    by_cases harfcn : item.arfcn = station.arfcn
    · rw [if_pos harfcn, List.mem_cons] at h
      rcases h with h | h
      · exact Or.inr (Or.inr ⟨item, List.mem_cons_self, harfcn, h⟩)
      · exact Or.inl (List.mem_cons_of_mem _ h)
    · rw [if_neg harfcn, List.mem_cons] at h
      rcases h with h | h
      · exact Or.inl (h ▸ List.mem_cons_self)
      · rcases ih h with h | h | ⟨item', hmem, hitem⟩
        · exact Or.inl (List.mem_cons_of_mem _ h)
        · exact Or.inr (Or.inl h)
        · exact Or.inr (Or.inr ⟨item', List.mem_cons_of_mem _ hmem, hitem⟩)

theorem map_arfcn_addStation (stations : List BaseStationInformation)
    (station : BaseStationInformation) :
    (addStation stations station).map (·.arfcn) =
      if station.arfcn ∈ stations.map (·.arfcn) then stations.map (·.arfcn)
      else stations.map (·.arfcn) ++ [station.arfcn] := by
  induction stations with
  | nil => simp [addStation]
  | cons item rest ih =>
    rw [addStation]
    by_cases harfcn : item.arfcn = station.arfcn
    · simp [harfcn, BaseStationInformation.overwrite]
    · have hne : ¬ station.arfcn = item.arfcn := fun h => harfcn h.symm
      rw [if_neg harfcn, List.map_cons, ih]
      by_cases hmem : station.arfcn ∈ rest.map (·.arfcn)
      · rw [if_pos hmem, List.map_cons, if_pos (List.mem_cons_of_mem _ hmem)]
      · rw [if_neg hmem, List.map_cons, if_neg (by simpa [hne] using hmem), List.cons_append]

/-- A list of stations keeps to one record for each ARFCN. -/
theorem nodup_addStation {stations : List BaseStationInformation}
    (h : (stations.map (·.arfcn)).Nodup) (station : BaseStationInformation) :
    ((addStation stations station).map (·.arfcn)).Nodup := by
  rw [map_arfcn_addStation]
  by_cases hmem : station.arfcn ∈ stations.map (·.arfcn)
  · rw [if_pos hmem]
    exact h
  · rw [if_neg hmem]
    apply List.nodup_append.2
    refine ⟨h, List.nodup_singleton _, ?_⟩
    intro a ha b hb
    rw [List.mem_singleton] at hb
    intro heq
    exact hmem (by rw [← hb, ← heq]; exact ha)

end ImsiCatcher

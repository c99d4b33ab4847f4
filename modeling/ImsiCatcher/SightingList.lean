import ImsiCatcher.Rules
import ImsiCatcher.ScanThread

/-!
# The list that sightings build up

`add_station` is a hand-written update by ARFCN. Read back at an ARFCN, it leaves the record
of another one alone, and takes over what was sighted at its own. The list that a sequence
of parsed records builds up is described by this alone.
-/

namespace ImsiCatcher

structure ParsedStation where
  station : BaseStationInformation
  parsed : ∃ line sighting, parseStation line = some sighting ∧ sighting.station = station

theorem ParsedStation.timesScanned (p : ParsedStation) : p.station.timesScanned = 1 := by
  obtain ⟨line, sighting, hparse, hstation⟩ := p.parsed
  simp only [parseStation, Option.bind_eq_bind, Option.bind_eq_some_iff, Option.pure_def,
    Option.some_inj] at hparse
  obtain ⟨_, -, _, -, _, -, _, -, _, -, rfl⟩ := hparse
  rw [← hstation]

def discover (parsed : List ParsedStation) : List BaseStationInformation :=
  parsed.foldl (fun stations p => addStation stations p.station) []

structure BaseStationInformation.Shows (record latest : BaseStationInformation) : Prop where
  rxlev : record.rxlev = latest.rxlev
  lac : record.lac = latest.lac
  cell : record.cell = latest.cell
  bsic : record.bsic = latest.bsic
  neighbours : record.neighbours = latest.neighbours
  country : record.country = latest.country
  provider : record.provider = latest.provider
  systemInfoT1 : record.systemInfoT1 = latest.systemInfoT1
  systemInfoT2 : record.systemInfoT2 = latest.systemInfoT2
  systemInfoT2bis : record.systemInfoT2bis = latest.systemInfoT2bis
  systemInfoT2ter : record.systemInfoT2ter = latest.systemInfoT2ter
  systemInfoT3 : record.systemInfoT3 = latest.systemInfoT3
  systemInfoT4 : record.systemInfoT4 = latest.systemInfoT4

theorem recordOf_addStation (stations : List BaseStationInformation)
    (station : BaseStationInformation) (arfcn : ℤ) :
    recordOf arfcn (addStation stations station) =
      if station.arfcn = arfcn then
        some (match recordOf arfcn stations with
          | none => { station with found := true }
          | some item => item.overwrite station)
      else recordOf arfcn stations := by
  induction stations with
  | nil => by_cases h : station.arfcn = arfcn <;> simp [addStation, recordOf, h]
  | cons item rest ih =>
    rw [recordOf] at ih
    rw [addStation, recordOf, recordOf]
    by_cases hitem : item.arfcn = station.arfcn
    · rw [if_pos hitem, List.find?_cons, List.find?_cons]
      by_cases h : station.arfcn = arfcn
      · simp [BaseStationInformation.overwrite, hitem, h]
      · simp [BaseStationInformation.overwrite, hitem, h]
    · rw [if_neg hitem, List.find?_cons, List.find?_cons, ih]
      by_cases h : item.arfcn = arfcn
      · have hne : station.arfcn ≠ arfcn := fun heq => hitem (h.trans heq.symm)
        simp [h, hne]
      · simp [h, recordOf]

theorem discover_concat (parsed : List ParsedStation) (p : ParsedStation) :
    discover (parsed ++ [p]) = addStation (discover parsed) p.station := by
  rw [discover, List.foldl_append]
  rfl

theorem map_arfcn_discover (parsed : List ParsedStation) :
    (discover parsed).map (·.arfcn) = (parsed.map (·.station.arfcn)).eraseDups := by
  induction parsed using List.reverseRecOn with
  | nil => rfl
  | append_singleton parsed p ih =>
    rw [discover_concat, map_arfcn_addStation, ih, List.map_append, List.map_singleton,
      List.eraseDups_append]
    by_cases hmem : p.station.arfcn ∈ parsed.map (·.station.arfcn)
    · rw [if_pos (List.mem_eraseDups.2 hmem)]
      simp [List.removeAll, List.mem_map.1 hmem]
    · rw [if_neg (hmem ∘ List.mem_eraseDups.1)]
      simp [List.removeAll, List.eraseDups_cons, mt List.mem_map.2 hmem]

theorem nodup_discover (parsed : List ParsedStation) :
    ((discover parsed).map (·.arfcn)).Nodup := by
  induction parsed using List.reverseRecOn with
  | nil => exact List.nodup_nil
  | append_singleton parsed p ih =>
    rw [discover_concat]
    exact nodup_addStation ih p.station

def sightingsOf (parsed : List ParsedStation) (arfcn : ℤ) : List ParsedStation :=
  parsed.filter fun p => p.station.arfcn = arfcn

theorem sightingsOf_concat (parsed : List ParsedStation) (p : ParsedStation) (arfcn : ℤ) :
    sightingsOf (parsed ++ [p]) arfcn =
      sightingsOf parsed arfcn ++ if p.station.arfcn = arfcn then [p] else [] := by
  rw [sightingsOf, List.filter_append, sightingsOf]
  by_cases h : p.station.arfcn = arfcn <;> simp [h]

theorem shows_overwrite (item station : BaseStationInformation) :
    (item.overwrite station).Shows station :=
  ⟨rfl, rfl, rfl, rfl, rfl, rfl, rfl, rfl, rfl, rfl, rfl, rfl, rfl⟩

theorem shows_found (station : BaseStationInformation) :
    ({ station with found := true } : BaseStationInformation).Shows station :=
  ⟨rfl, rfl, rfl, rfl, rfl, rfl, rfl, rfl, rfl, rfl, rfl, rfl, rfl⟩

/-- The record of an ARFCN counts its sightings and shows the latest of them. -/
theorem recordOf_discover (parsed : List ParsedStation) {arfcn : ℤ}
    {record : BaseStationInformation} (h : recordOf arfcn (discover parsed) = some record) :
    record.timesScanned = (sightingsOf parsed arfcn).length ∧
      ∃ latest, (sightingsOf parsed arfcn).getLast? = some latest ∧
        record.Shows latest.station := by
  induction parsed using List.reverseRecOn generalizing record with
  | nil => exact absurd h (by simp [discover, recordOf])
  | append_singleton parsed p ih =>
    rw [discover_concat, recordOf_addStation] at h
    rw [sightingsOf_concat]
    by_cases hp : p.station.arfcn = arfcn
    · rw [if_pos hp, Option.some_inj] at h
      rw [if_pos hp, List.length_append, List.length_singleton, List.getLast?_concat]
      cases hrecord : recordOf arfcn (discover parsed) with
      | none =>
        rw [hrecord] at h
        subst h
        have hnone : sightingsOf parsed arfcn = [] := by
          rw [recordOf_eq_none, map_arfcn_discover, List.mem_eraseDups, List.mem_map] at hrecord
          rw [sightingsOf, List.filter_eq_nil_iff]
          exact fun q hq heq => hrecord ⟨q, hq, of_decide_eq_true heq⟩
        rw [hnone]
        exact ⟨p.timesScanned, p, rfl, shows_found p.station⟩
      | some item =>
        rw [hrecord] at h
        subst h
        exact ⟨congrArg (· + 1) (ih hrecord).1, p, rfl, shows_overwrite item p.station⟩
    · rw [if_neg hp] at h
      rw [if_neg hp, List.append_nil]
      exact ih h

theorem discover_latest (parsed : List ParsedStation) :
    ((discover parsed).map (·.arfcn)).Nodup ∧
    (discover parsed).map (·.arfcn) = (parsed.map (·.station.arfcn)).eraseDups ∧
    ∀ record ∈ discover parsed,
      record.timesScanned = (sightingsOf parsed record.arfcn).length ∧
        ∃ latest, (sightingsOf parsed record.arfcn).getLast? = some latest ∧
          record.Shows latest.station := by
  refine ⟨nodup_discover parsed, map_arfcn_discover parsed, ?_⟩
  intro record hrecord
  apply recordOf_discover
  exact recordOf_of_mem (nodup_discover parsed) hrecord

/-- A record of which only the ARFCN, the LAC and one neighbour could be read. -/
def parsedAt (arfcn lac : Text) (h : (parseStation fun i =>
    if i = 2 then "ARFCN: ".toList ++ arfcn else if i = 4 then "LAC: ".toList ++ lac
    else if i = 7 then "Neighbours: 7 ".toList else []).isSome) : ParsedStation :=
  ⟨(Option.get _ h).station, _, _, (Option.some_get h).symm, rfl⟩

def cellOne : ParsedStation := parsedAt "20".toList "1".toList (by decide)

def cellTwo : ParsedStation := parsedAt "20".toList "2".toList (by decide)

example : (discover [cellOne, cellTwo, cellTwo]).map (fun record =>
    (record.arfcn, record.lac, record.timesScanned)) = [(20, 2, 3)] := by decide

end ImsiCatcher

import ImsiCatcher.Controller
import ImsiCatcher.Rearrangement
import Mathlib.Data.List.Sort
import Mathlib.Data.Rat.Floor

/-!
# The rules

`rules.py` and the settings it reads. A check is asked about an ARFCN and sees the whole
list of stations. It yields nothing where it raises an exception, and where it needs a
record of the ARFCN and there is none. Two rules keep a memory of each ARFCN that they were
asked about; the thresholds are the decimal fractions of the settings.
-/

namespace ImsiCatcher

/-- The rules configuration in `settings.py`. -/
structure RuleSettings where
  providerList : List Text := ["T-Mobile", "O2", "Vodafone", "E-Plus"].map String.toList
  providerCountryList : List (Text × Text) :=
    ["DB Systel GSM-R", "T-Mobile", "O2", "Vodafone", "E-Plus"].map fun provider =>
      (provider.toList, "Germany".toList)
  lacMapping : List (Text × List ℤ) :=
    [("DB Systel GSM-R".toList, [0]),
      ("T-Mobile".toList, [21013, 21014, 21015]),
      ("O2".toList, [50945]),
      ("Vodafone".toList, [793]),
      ("E-Plus".toList, [138, 588])]
  arfcnMapping : List (Text × List (ℤ × ℤ)) :=
    [("DB Systel GSM-R".toList, [(0, 1)]),
      ("T-Mobile".toList, [(13, 49), (81, 102), (122, 124), (587, 611)]),
      ("O2".toList, [(0, 0), (1000, 1023), (637, 723)]),
      ("Vodafone".toList, [(1, 12), (50, 80), (103, 121), (725, 751)]),
      ("E-Plus".toList, [(975, 999), (777, 863)])]
  lacThreshold : ℚ := 1 / 20
  dbRxThreshold : ℚ := 1 / 10
  chRxThreshold : ℚ := 1 / 5
  pagingsPer10sThreshold : ℚ := ImsiCatcher.pagingsPer10sThreshold
  assignmentLimit : ℕ := ImsiCatcher.assignmentLimit
  neighboursThreshold : ℚ := -1
  ruleGroups : List (List Text) :=
    [["Provider Check", "Country Provider Mapping", "ARFCN Mapping", "LAC Mapping",
        "Unique CellID"],
      ["LAC Median Deviation", "Neighbourhood Structure", "Pure Neighbourhoods",
        "Fully Discovered Neighbourhoods"],
      ["Local Area Database", "CellID Database"],
      ["LAC Change Rule", "rx Change Rule"],
      ["PCH Scan"]].map fun group => group.map String.toList

structure LACDBEntry where
  cellID : ℤ
  rxmin : ℤ
  rxmax : ℤ
  deriving DecidableEq

/-- What a change rule remembers: a value, the sightings it was seen at, and its result. -/
structure Remembered where
  value : ℤ
  timesScanned : ℕ
  result : RuleResult
  deriving DecidableEq

/-- The `_old_lac` of the LAC change rule and the `_old_rx` of the rx change rule. -/
structure RuleMemory where
  oldLac : ℤ → Option Remembered := fun _ => none
  oldRx : ℤ → Option Remembered := fun _ => none

section Checks
variable (settings : RuleSettings) (arfcn : ℤ) (stations : List BaseStationInformation)

/-- The first record of the ARFCN, which most rules go by. -/
def recordOf : Option BaseStationInformation := stations.find? fun item => item.arfcn = arfcn

def extractNeighbours : Option (List ℤ) := (recordOf arfcn stations).map (·.neighbours)

def extractProvider : Option Text := (recordOf arfcn stations).map (·.provider)

/-- A value that is taken over from every record of the ARFCN, and is zero before the first. -/
def lastValue (value : BaseStationInformation → ℤ) : ℤ :=
  stations.foldl (fun last item => if item.arfcn = arfcn then value item else last) 0

def providerRule : RuleResult :=
  if ∃ station ∈ stations, station.arfcn = arfcn ∧ station.provider ∈ settings.providerList
  then .ok else .critical

def countryMappingRule : RuleResult :=
  if ∃ station ∈ stations, station.arfcn = arfcn ∧
      settings.providerCountryList.lookup station.provider ≠ some station.country
  then .critical else .ok

def arfcnMappingRule : RuleResult :=
  if ∃ station ∈ stations, station.arfcn = arfcn ∧
      ∃ range ∈ (settings.arfcnMapping.lookup station.provider).getD [],
        range.1 ≤ station.arfcn ∧ station.arfcn ≤ range.2
  then .ok else .critical

def lacMappingRule : RuleResult :=
  if ∃ station ∈ stations, station.arfcn = arfcn ∧
      station.lac ∈ (settings.lacMapping.lookup station.provider).getD []
  then .ok else .critical

def uniqueCellIDRule : RuleResult :=
  if ∃ station ∈ stations, station.arfcn ≠ arfcn ∧
      station.cell = lastValue arfcn stations (·.cell)
  then .critical else .ok

def lacMedianList : List ℤ :=
  (stations.filter fun item => extractProvider arfcn stations = some item.provider).map (·.lac)

def lacMedian (lacs : List ℤ) : ℤ := (lacs.insertionSort (· ≤ ·)).getD (lacs.length / 2) 0

def lacMedianRule : RuleResult :=
  if (lacMedianList arfcn stations).length < 2 then .ignore
  else
    let median : ℚ := lacMedian (lacMedianList arfcn stations)
    let lac : ℚ := lastValue arfcn stations (·.lac)
    if median - median * settings.lacThreshold ≤ lac ∧
        lac ≤ median + median * settings.lacThreshold then .ok
    else .critical

/-- The first loop of the neighbourhood structure rule: whether a neighbour is listed, and
whether a station that was met before shares one. -/
def neighbourLoop (own : List ℤ) : List BaseStationInformation → Bool → Bool × Bool
  | [], indirect => (false, indirect)
  | item :: rest, indirect =>
    if item.arfcn ∈ own then (true, indirect)
    else neighbourLoop own rest
      (indirect || (item.arfcn ≠ arfcn ∧ ∃ foreign ∈ item.neighbours, foreign ∈ own))

def incomingEdges (provider : Option Text) : Bool :=
  arfcn ∈ (stations.filter fun item => some item.provider = provider).flatMap (·.neighbours)

def neighbourhoodStructureRule : Option RuleResult :=
  match extractNeighbours arfcn stations with
  | none => none
  | some own =>
    if own = [] then some .critical
    else
      let found := neighbourLoop arfcn own stations false
      if found.1 ∧ incomingEdges arfcn stations (extractProvider arfcn stations) then some .ok
      else if found.1 ∨ found.2 then some .warning
      else some .critical

/-- Nothing is looked up in the neighbours where no station is listed. -/
def pureNeighbourhoodRule : Option RuleResult :=
  match extractNeighbours arfcn stations with
  | none => if stations = [] then some .ok else none
  | some neighbours =>
    if ∃ item ∈ stations, item.arfcn ∈ neighbours ∧
        some item.provider ≠ extractProvider arfcn stations
    then some .critical else some .ok

/-- The share of discovered neighbours is divided by the list of neighbours itself, which
raises an exception. -/
def discoveredNeighboursRule : Option RuleResult :=
  match extractNeighbours arfcn stations with
  | none => if stations = [] ∧ settings.neighboursThreshold < 0 then some .ignore
      else if stations = [] ∧ 1 < settings.neighboursThreshold then some .critical
      else none
  | some neighbours =>
    let found := (stations.filter fun item => item.arfcn ∈ neighbours).length
    if settings.neighboursThreshold < 0 then some .ignore
    else if settings.neighboursThreshold ≤ 1 then none
    else if ⌊settings.neighboursThreshold⌋ ≤ (found : ℤ) then some .ok
    else some .critical

/-- `LocalAreaDatabase.get_station`, on the cache of the database. -/
def getStation (cache : List LACDBEntry) (cellID : ℤ) : Option LACDBEntry :=
  cache.find? fun item => item.cellID = cellID

def locationAreaDatabaseRule (database : Option (List LACDBEntry)) : Option RuleResult :=
  match database with
  | none => some .ignore
  | some cache =>
    (recordOf arfcn stations).map fun item =>
      match getStation cache item.cell with
      | none => .ignore
      | some entry =>
        if (entry.rxmin : ℚ) - |entry.rxmin * settings.dbRxThreshold| ≤ item.rxlev ∧
            (item.rxlev : ℚ) ≤ entry.rxmax + |entry.rxmax * settings.dbRxThreshold| then .ok
        else .critical

/-- A change rule on a value that it is shown, with what it remembers; `agrees` compares
the old value with the new one, and `next` is what is remembered where they differ. -/
def changeRule (agrees : ℤ → ℤ → Bool) (next : ℤ → ℤ → ℤ) (value : ℤ) (scanned : ℕ) :
    Option Remembered → Remembered
  | none => ⟨value, scanned, .ignore⟩
  | some old =>
    if 1 < scanned ∧ old.timesScanned < scanned then
      if agrees old.value value then ⟨value, scanned, .ok⟩
      else ⟨next old.value value, scanned, .critical⟩
    else old

/-- The LAC of the first check stays the one to compare with. -/
def lacChange (item : BaseStationInformation) : Option Remembered → Remembered :=
  changeRule (fun old new => new = old) (fun old _ => old) item.lac item.timesScanned

/-- The level of the latest check becomes the one to compare with. -/
def rxChange (item : BaseStationInformation) : Option Remembered → Remembered :=
  changeRule (fun old new => (old : ℚ) - |old * settings.chRxThreshold| ≤ new ∧
      (new : ℚ) ≤ old + |old * settings.chRxThreshold|)
    (fun _ new => new) item.rxlev item.timesScanned

def lacChangeRule (memory : RuleMemory) : Option (RuleResult × RuleMemory) :=
  (recordOf arfcn stations).map fun item =>
    let new := lacChange item (memory.oldLac arfcn)
    (new.result, { memory with oldLac := Function.update memory.oldLac arfcn (some new) })

def rxChangeRule (memory : RuleMemory) : Option (RuleResult × RuleMemory) :=
  (recordOf arfcn stations).map fun item =>
    let new := rxChange settings item (memory.oldRx arfcn)
    (new.result, { memory with oldRx := Function.update memory.oldRx arfcn (some new) })

def pchRule : Option RuleResult :=
  (recordOf arfcn stations).map fun item =>
    if item.pchScanDone = false then .ignore
    else if 0 < item.immAssNonHop then .critical
    else if settings.pagingsPer10sThreshold ≤ item.pagings ∧
        settings.assignmentLimit ≤ item.immAssHop then .ok
    else .critical

end Checks

inductive Rule where
  | provider
  | countryMapping
  | arfcnMapping
  | lacMapping
  | uniqueCellID
  | lacMedian
  | neighbourhoodStructure
  | pureNeighbourhood
  | discoveredNeighbours
  | cellIDDatabase
  | locationAreaDatabase
  | lacChange
  | rxChange
  | pch
  deriving DecidableEq, Repr

namespace Rule

def identifier : Rule → Text
  | provider => "Provider Check".toList
  | countryMapping => "Country Provider Mapping".toList
  | arfcnMapping => "ARFCN Mapping".toList
  | lacMapping => "LAC Mapping".toList
  | uniqueCellID => "Unique CellID".toList
  | lacMedian => "LAC Median Deviation".toList
  | neighbourhoodStructure => "Neighbourhood Structure".toList
  | pureNeighbourhood => "Pure Neighbourhoods".toList
  | discoveredNeighbours => "Discovered Neighbours".toList
  | cellIDDatabase => "CellID Database".toList
  | locationAreaDatabase => "Local Area Database".toList
  | lacChange => "LAC Change Rule".toList
  | rxChange => "rx Change Rule".toList
  | pch => "PCH Scan".toList

theorem identifier_injective : Function.Injective identifier := by
  intro rule rule' h
  cases rule <;> cases rule' <;> first | rfl | exact absurd h (by decide)

end Rule

/-- What the rules work from: the settings, the cache of the local database, and which of
the rules are active. -/
structure RuleBase where
  settings : RuleSettings := {}
  database : Option (List LACDBEntry) := some []
  active : Rule → Bool := fun rule => rule ≠ .cellIDDatabase ∧ rule ≠ .locationAreaDatabase

/-- `check`, with the memory that it leaves. -/
def Rule.check (rule : Rule) (base : RuleBase) (arfcn : ℤ)
    (stations : List BaseStationInformation) (memory : RuleMemory) :
    Option (RuleResult × RuleMemory) :=
  match rule with
  | provider => some (providerRule base.settings arfcn stations, memory)
  | countryMapping => some (countryMappingRule base.settings arfcn stations, memory)
  | arfcnMapping => some (arfcnMappingRule base.settings arfcn stations, memory)
  | lacMapping => some (lacMappingRule base.settings arfcn stations, memory)
  | uniqueCellID => some (uniqueCellIDRule arfcn stations, memory)
  | lacMedian => some (lacMedianRule base.settings arfcn stations, memory)
  | neighbourhoodStructure =>
    (neighbourhoodStructureRule arfcn stations).map fun result => (result, memory)
  | pureNeighbourhood =>
    (pureNeighbourhoodRule arfcn stations).map fun result => (result, memory)
  | discoveredNeighbours =>
    (discoveredNeighboursRule base.settings arfcn stations).map fun result => (result, memory)
  | cellIDDatabase => (cellIDDatabaseRule arfcn stations).map fun result => (result, memory)
  | locationAreaDatabase =>
    (locationAreaDatabaseRule base.settings arfcn stations base.database).map fun result =>
      (result, memory)
  | lacChange => lacChangeRule arfcn stations memory
  | rxChange => rxChangeRule base.settings arfcn stations memory
  | pch => (pchRule base.settings arfcn stations).map fun result => (result, memory)

/-! ### The record of an ARFCN -/

section
variable {arfcn : ℤ} {stations : List BaseStationInformation} {station : BaseStationInformation}

theorem recordOf_eq_none : recordOf arfcn stations = none ↔ arfcn ∉ stations.map (·.arfcn) :=
  Keyed.find?_eq_none

theorem recordOf_eq_some (h : (stations.map (·.arfcn)).Nodup) :
    recordOf arfcn stations = some station ↔ station ∈ stations ∧ station.arfcn = arfcn :=
  Keyed.find?_eq_some h

theorem recordOf_of_mem (h : (stations.map (·.arfcn)).Nodup) (hmem : station ∈ stations) :
    recordOf station.arfcn stations = some station :=
  (recordOf_eq_some h).2 ⟨hmem, rfl⟩

end

end ImsiCatcher

import ImsiCatcher.Columns
import ImsiCatcher.RecordChanges
import ImsiCatcher.ScanDelivery
import Mathlib.Data.Rat.Floor

/-!
# The exported table

`export_csv` joins thirteen columns without quoting them. The commas of a colour code are
replaced, and those of a provider are not; a coordinate is printed as an integer, so that
what a web lookup found does not come back.
-/

namespace ImsiCatcher

/-! ### Lines and fields -/

def RuleResult.text : RuleResult → Text
  | .ok => "Ok".toList
  | .warning => "Warning".toList
  | .critical => "Critical".toList
  | .ignore => "Ignore".toList

def CellIDDBStatus.text : CellIDDBStatus → Text
  | .confirmed => "Confirmed".toList
  | .approximated => "Approximated".toList
  | .error => "Error".toList
  | .notLookedUp => "Not looked up".toList
  | .notInDb => "Not in DB.".toList

def CIDDatabases.text : CIDDatabases → Text
  | .none => "None".toList
  | .google => "Google".toList
  | .opencid => "Open Cell ID".toList
  | .localDb => "Local".toList

/-- What `%d` leaves of a float. -/
def truncate (q : ℚ) : ℤ := if 0 ≤ q then ⌊q⌋ else ⌈q⌉

def csvHeader : Text :=
  ("Country, Provider, ARFCN, rxlev, BSIC, LAC, Cell ID, Evaluation, Latitude, Longitude, " ++
    "DB Status, DB Provider, Neighbours\n").toList

def csvColumns (item : BaseStationInformation) : List Text :=
  [item.country,
    item.provider,
    Text.decimalInt item.arfcn,
    Text.decimalInt item.rxlev,
    item.bsic.map fun c => if c = ',' then '/' else c,
    Text.decimalInt item.lac,
    Text.decimalInt item.cell,
    (item.evaluation.map RuleResult.text).getD "NYE".toList,
    Text.decimalInt (truncate item.latitude),
    Text.decimalInt (truncate item.longitude),
    item.dbStatus.text,
    item.dbProvider.text,
    [' '].intercalate (item.neighbours.map Text.decimalInt)]

def csvLine (item : BaseStationInformation) : Text :=
  [',', ' '].intercalate (csvColumns item) ++ ['\n']

/-- The path and the content of the file that is written, if there is one, and the calls on the
window. -/
def exportCsv (databasePath location : Text) (stations : List BaseStationInformation) :
    Option (Text × Text) × List ControllerCall :=
  if location = [] then (none, [Controller.log "Set valid location before exporting!"])
  else
    let path := databasePath ++ location ++ ".csv".toList
    (some (path, csvHeader ++ (stations.map csvLine).flatten), [Controller.log "Export done."])

def dataLines (content : Text) : List Text := (Text.lines content).tail

def csvFields (line : Text) : List Text := Columns.splitPair ',' ' ' line.dropLast

theorem csvFields_csvLine (item : BaseStationInformation) :
    csvFields (csvLine item) = (csvColumns item).flatMap (Columns.splitPair ',' ' ') := by
  unfold csvFields csvLine
  rw [List.dropLast_concat]
  exact Columns.splitPair_intercalate (by decide) (List.cons_ne_nil _ _)

theorem length_csvFields_csvHeader : (csvFields csvHeader).length = 13 := by decide +kernel

/-! ### Columns without separators -/

structure Recorded (item : BaseStationInformation) : Prop where
  country : ∀ c ∈ item.country, Text.isWord c = true
  provider : '\n' ∉ item.provider
  bsic : ∀ c ∈ item.bsic, c = ',' ∨ c.isDigit = true
  unlocated : item.dbProvider ≠ .google → item.dbProvider ≠ .opencid →
    item.latitude = 0 ∧ item.longitude = 0

/-- A column that neither runs into the next one nor into the next line. -/
def Tidy (col : Text) : Prop := ',' ∉ col ∧ '\n' ∉ col

instance (col : Text) : Decidable (Tidy col) := inferInstanceAs (Decidable (_ ∧ _))

theorem tidy_of_forall {p : Char → Prop} (hcomma : ¬p ',') (hbreak : ¬p '\n') {col : Text}
    (h : ∀ c ∈ col, p c) : Tidy col :=
  ⟨fun hmem => hcomma (h _ hmem), fun hmem => hbreak (h _ hmem)⟩

theorem tidy_decimalInt (z : ℤ) : Tidy (Text.decimalInt z) :=
  tidy_of_forall (p := fun c => c = '-' ∨ c.isDigit = true) (by decide) (by decide)
    fun _ => Text.eq_minus_or_isDigit

theorem tidy_bsic {bsic : Text} (h : ∀ c ∈ bsic, c = ',' ∨ c.isDigit = true) :
    Tidy (bsic.map fun c => if c = ',' then '/' else c) := by
  refine tidy_of_forall (p := fun c => c = '/' ∨ c.isDigit = true) (by decide) (by decide) ?_
  intro c hc
  obtain ⟨d, hd, rfl⟩ := List.mem_map.1 hc
  by_cases hcomma : d = ','
  · exact Or.inl (if_pos hcomma)
  · rw [if_neg hcomma]
    exact Or.inr ((h d hd).resolve_left hcomma)

theorem tidy_neighbours (neighbours : List ℤ) :
    Tidy ([' '].intercalate (neighbours.map Text.decimalInt)) := by
  constructor <;> refine Columns.notMem_intercalate (by decide) fun col hcol => ?_
  all_goals
    obtain ⟨z, -, rfl⟩ := List.mem_map.1 hcol
  · exact (tidy_decimalInt z).1
  · exact (tidy_decimalInt z).2

theorem tidy_evaluation (evaluation : Option RuleResult) :
    Tidy ((evaluation.map RuleResult.text).getD "NYE".toList) := by
  cases evaluation with
  | none => decide
  | some result => cases result <;> decide

theorem csvColumns_tidy {item : BaseStationInformation} (h : Recorded item) :
    ∀ col ∈ csvColumns item, col = item.provider ∨ Tidy col := by
  have hcountry : Tidy item.country :=
    tidy_of_forall (by decide) (by decide) h.country
  have hstatus : Tidy item.dbStatus.text := by cases item.dbStatus <;> decide
  have hdb : Tidy item.dbProvider.text := by cases item.dbProvider <;> decide
  intro col hcol
  simp only [csvColumns, List.mem_cons, List.not_mem_nil, or_false] at hcol
  rcases hcol with rfl | rfl | rfl | rfl | rfl | rfl | rfl | rfl | rfl | rfl | rfl | rfl | rfl
  · exact Or.inr hcountry
  · exact Or.inl rfl
  · exact Or.inr (tidy_decimalInt _)
  · exact Or.inr (tidy_decimalInt _)
  · exact Or.inr (tidy_bsic h.bsic)
  · exact Or.inr (tidy_decimalInt _)
  · exact Or.inr (tidy_decimalInt _)
  · exact Or.inr (tidy_evaluation _)
  · exact Or.inr (tidy_decimalInt _)
  · exact Or.inr (tidy_decimalInt _)
  · exact Or.inr hstatus
  · exact Or.inr hdb
  · exact Or.inr (tidy_neighbours _)

theorem isLine_csvLine {item : BaseStationInformation} (h : Recorded item) :
    Text.IsLine (csvLine item) := by
  refine ⟨_, Columns.notMem_intercalate (by decide) fun col hcol => ?_, rfl⟩
  rcases csvColumns_tidy h col hcol with rfl | htidy
  · exact h.provider
  · exact htidy.2

/-- The file has a line for each record. -/
theorem dataLines_content {stations : List BaseStationInformation}
    (h : ∀ item ∈ stations, Recorded item) :
    dataLines (csvHeader ++ (stations.map csvLine).flatten) = stations.map csvLine := by
  have hheader : Text.IsLine csvHeader := ⟨csvHeader.dropLast, by decide +kernel, by decide +kernel⟩
  have hlines : ∀ l ∈ csvHeader :: stations.map csvLine, Text.IsLine l := by
    rw [List.forall_mem_cons, List.forall_mem_map]
    exact ⟨hheader, fun item hitem => isLine_csvLine (h item hitem)⟩
  unfold dataLines
  rw [← List.flatten_cons, Text.lines_flatten hlines, List.tail_cons]

/-- Only the provider can have a separator in it. -/
theorem clean_csvColumns_iff {item : BaseStationInformation} (h : Recorded item) :
    (∀ col ∈ csvColumns item, ¬[',', ' '] <:+: col) ↔
      Text.contains ", ".toList item.provider = false := by
  have hcontains : Text.contains ", ".toList item.provider = false ↔
      ¬[',', ' '] <:+: item.provider := by
    rw [← Bool.not_eq_true, Text.contains_iff]
    rfl
  rw [hcontains]
  constructor
  · exact fun hclean => hclean item.provider (by simp [csvColumns])
  · intro hprovider col hcol hpair
    rcases csvColumns_tidy h col hcol with rfl | htidy
    · exact hprovider hpair
    · exact htidy.1 (hpair.subset List.mem_cons_self)

theorem length_csvFields_iff {item : BaseStationInformation} (h : Recorded item) :
    (csvFields (csvLine item)).length = (csvFields csvHeader).length ↔
      Text.contains ", ".toList item.provider = false := by
  rw [length_csvFields_csvHeader, csvFields_csvLine, ← clean_csvColumns_iff h,
    ← Columns.length_flatMap_eq_iff]
  rfl

theorem csvFields_of_clean {item : BaseStationInformation} (h : Recorded item)
    (hprovider : Text.contains ", ".toList item.provider = false) :
    csvFields (csvLine item) = csvColumns item := by
  rw [csvFields_csvLine]
  exact Columns.flatMap_of_no_pair ((clean_csvColumns_iff h).2 hprovider)

/-! ### What the fields tell -/

structure SameReading (other item : BaseStationInformation) : Prop where
  provider : other.provider = item.provider
  lac : other.lac = item.lac
  cell : other.cell = item.cell
  latitude : other.latitude = item.latitude
  longitude : other.longitude = item.longitude
  neighbours : other.neighbours = item.neighbours

theorem CIDDatabases.text_injective : Function.Injective CIDDatabases.text := by
  intro db db' h
  cases db <;> cases db' <;> first | rfl | exact absurd h (by decide)

/-- Where no web lookup has set the coordinates, the columns tell them too. -/
theorem sameReading_of_csvColumns {other item : BaseStationInformation} (hother : Recorded other)
    (hitem : Recorded item) (hgoogle : item.dbProvider ≠ .google)
    (hopencid : item.dbProvider ≠ .opencid) (h : csvColumns other = csvColumns item) :
    SameReading other item := by
  simp only [csvColumns, List.cons.injEq, and_true] at h
  obtain ⟨-, hprovider, -, -, -, hlac, hcell, -, -, -, -, hdb, hneighbours⟩ := h
  have hdb : other.dbProvider = item.dbProvider := CIDDatabases.text_injective hdb
  obtain ⟨hlat, hlong⟩ := hitem.unlocated hgoogle hopencid
  rw [← hdb] at hgoogle hopencid
  obtain ⟨hlat', hlong'⟩ := hother.unlocated hgoogle hopencid
  exact ⟨hprovider, Text.decimalInt_injective hlac, Text.decimalInt_injective hcell,
    hlat'.trans hlat.symm, hlong'.trans hlong.symm,
    Text.intercalate_decimalInt_injective hneighbours⟩

/-! ### Records of a session -/

theorem bsic_chars {line v : Text} (h : fieldMatch "BSIC:" (.seq (.plus (.chars Char.isDigit))
    (.seq (.lit [',']) (.plus (.chars Char.isDigit)))) line = some v) :
    ∀ c ∈ v, c = ',' ∨ c.isDigit = true := by
  obtain ⟨-, s, m, hm, rfl⟩ := exists_of_fieldMatch h
  obtain ⟨ncc, hncc, w, hw, rfl⟩ := Regex.mem_run_seq.1 hm
  obtain ⟨comma, hcomma, bcc, hbcc, rfl⟩ := Regex.mem_run_seq.1 hw
  have hlit : comma.text = [','] := by
    rw [Regex.run] at hcomma
    split at hcomma
    · rw [List.mem_singleton.1 hcomma]
    · exact absurd hcomma List.not_mem_nil
  intro c hc
  rcases List.mem_append.1 hc with hc | hc
  · exact Or.inr ((Regex.mem_run_plus_chars hncc).2 c hc)
  rcases List.mem_append.1 hc with hc | hc
  · rw [hlit] at hc
    exact Or.inl (List.mem_singleton.1 hc)
  · exact Or.inr ((Regex.mem_run_plus_chars hbcc).2 c hc)

theorem recorded_of_parseStation {line : ℕ → Text} {sighting : Sighting}
    (h : parseStation line = some sighting) : Recorded sighting.station := by
  simp only [parseStation, Option.bind_eq_bind, Option.bind_eq_some_iff, Option.pure_def,
    Option.some_inj] at h
  obtain ⟨_, -, _, -, _, -, _, -, _, -, rfl⟩ := h
  refine ⟨(country_ne_nil (line 0)).2, fun hbreak => ?_, fun c hc => ?_, fun _ _ => ⟨rfl, rfl⟩⟩
  · simp only [textField] at hbreak
    cases hmatch : fieldMatch "Provider:" (.plus (.chars Text.isDot)) (line 1) with
    | none =>
      rw [hmatch] at hbreak
      exact absurd hbreak (by decide)
    | some v =>
      rw [hmatch] at hbreak
      exact absurd ((fieldMatch_chars hmatch).2 _ hbreak) (by decide)
  · simp only [textField] at hc
    cases hmatch : fieldMatch "BSIC:" (.seq (.plus (.chars Char.isDigit))
        (.seq (.lit [',']) (.plus (.chars Char.isDigit)))) (line 5) with
    | none =>
      rw [hmatch] at hc
      exact absurd hc List.not_mem_nil
    | some v =>
      rw [hmatch] at hc
      exact bsic_chars hmatch c hc

theorem recorded_written {item : BaseStationInformation} (made : CIDDatabases × LookupAnswer)
    (h : Recorded item) : Recorded (Lookup.written item made) := by
  obtain ⟨db, a⟩ := made
  unfold Lookup.written
  cases db with
  | none => exact ⟨h.country, h.provider, h.bsic, h.unlocated⟩
  | google =>
    simp only [Lookup.take, Lookup.takeGoogle]
    split
    · exact ⟨h.country, h.provider, h.bsic, fun hgoogle => absurd rfl hgoogle⟩
    · exact ⟨h.country, h.provider, h.bsic, h.unlocated⟩
  | opencid =>
    simp only [Lookup.take, Lookup.takeOpenCellId]
    split_ifs
    · exact ⟨h.country, h.provider, h.bsic, fun _ hopencid => absurd rfl hopencid⟩
    · exact ⟨h.country, h.provider, h.bsic, fun _ hopencid => absurd rfl hopencid⟩
    · exact ⟨h.country, h.provider, h.bsic, h.unlocated⟩
  | localDb =>
    simp only [Lookup.take, Lookup.takeLocal]
    split
    · exact ⟨h.country, h.provider, h.bsic, fun _ _ => ⟨rfl, rfl⟩⟩
    · exact ⟨h.country, h.provider, h.bsic, h.unlocated⟩

theorem recorded_kept : KeptByOperations Recorded where
  evaluated := fun _ _ h => ⟨h.country, h.provider, h.bsic, h.unlocated⟩
  written := fun _ made h => recorded_written made h
  scanned := fun _ _ h => ⟨h.country, h.provider, h.bsic, h.unlocated⟩

def ReadFromScan (networks : List GsmNetwork) : SessionEvent → Prop
  | .foundBaseStation sighting _ => ∃ before prints part n,
      part <+: scanOutput networks before prints ∧
        sighting ∈ (ScanThread.run n ⟨Text.lines part, [], false⟩).found
  | _ => True

theorem brings_recorded {networks : List GsmNetwork} {e : SessionEvent}
    (he : ReadFromScan networks e) : e.Brings Recorded := by
  cases e with
  | foundBaseStation sighting verdict =>
    obtain ⟨_, _, part, n, -, hfound⟩ := he
    obtain ⟨line, hparse⟩ := ScanThread.parsed_of_mem_run hfound
    have hstation := recorded_of_parseStation hparse
    exact ⟨⟨hstation.country, hstation.provider, hstation.bsic, hstation.unlocated⟩,
      fun _ h => ⟨hstation.country, hstation.provider, hstation.bsic, h.unlocated⟩⟩
  | _ => trivial

def Builds (networks : List GsmNetwork) (es : List SessionEvent) : Prop :=
  session.Along (fun _ => ReadFromScan networks) {} es

def recordsAfter (es : List SessionEvent) : List BaseStationInformation :=
  (session.run {} es).1.controller.stations

theorem recorded_recordsAfter {networks : List GsmNetwork} {es : List SessionEvent}
    (hes : Builds networks es) : ∀ item ∈ recordsAfter es, Recorded item :=
  session.invariant_run (P := fun _ => ReadFromScan networks)
    (I := fun s => ∀ item ∈ s.controller.stations, Recorded item)
    (fun _ _ hs he => Session.records_step recorded_kept hs (brings_recorded he))
    (fun _ hitem => absurd hitem List.not_mem_nil) hes

/-! ### Coordinates that do not come back -/

theorem truncate_intCast (n : ℤ) : truncate n = n := by
  unfold truncate
  split
  · exact Int.floor_intCast n
  · exact Int.ceil_intCast n

/-- Half a degree farther from zero, the integer is the same. -/
theorem exists_truncate_eq_int (n : ℤ) : ∃ q : ℚ, q ≠ n ∧ truncate q = n := by
  unfold truncate
  by_cases hn : 0 ≤ n
  · have hcast : (0 : ℚ) ≤ n := Int.cast_nonneg hn
    refine ⟨n + 1 / 2, fun h => by linarith, ?_⟩
    rw [if_pos (by linarith), Int.floor_eq_iff]
    constructor <;> linarith
  · have hcast : (n : ℚ) < 0 := Int.cast_lt_zero.2 (not_le.1 hn)
    refine ⟨n - 1 / 2, fun h => by linarith, ?_⟩
    rw [if_neg (by linarith), Int.ceil_eq_iff]
    constructor <;> linarith

/-- An integer conversion takes another coordinate for the same one. -/
theorem exists_truncate_eq (q : ℚ) : ∃ q', q' ≠ q ∧ truncate q' = truncate q := by
  by_cases hint : q = truncate q
  · obtain ⟨q', hne, htruncate⟩ := exists_truncate_eq_int (truncate q)
    exact ⟨q', hint ▸ hne, htruncate⟩
  · exact ⟨truncate q, Ne.symm hint, truncate_intCast _⟩

theorem Lookup.ask_raised (l : Lookup) (enabled : Bool) (name : String) (db : CIDDatabases)
    (a : LookupAnswer) : (l.ask enabled name (some a) (Lookup.take db)).raised = l.raised := by
  unfold Lookup.ask
  split
  · rfl
  · exact Lookup.take_raised db _ a

theorem lookUp_raised (c : Controller) (a : LookupAnswer) (item : BaseStationInformation) :
    (c.lookUp (fun _ => some a) item).raised = false :=
  (Lookup.ask_raised _ _ _ .localDb a).trans ((Lookup.ask_raised _ _ _ .opencid a).trans
    (Lookup.ask_raised _ _ _ .google a))

theorem lookUps_answered (c : Controller) (a : LookupAnswer)
    (stations : List BaseStationInformation) :
    c.lookUps (fun _ _ => some a) stations = stations.map (c.lookUp fun _ => some a) := by
  induction stations with
  | nil => rfl
  | cons item rest ih =>
    simp only [Controller.lookUps, lookUp_raised, Bool.false_eq_true, if_false, List.map_cons, ih]

/-- One database answers for every record. -/
theorem updateWithWebServices_single {c : Controller} {db : CIDDatabases}
    (hc : c.enabledDatabases = [db]) (a : LookupAnswer) :
    (c.updateWithWebServices fun _ _ => some a).1.stations =
      c.stations.map fun item => Lookup.written item (db, a) := by
  have hmade : lookupsMade (fun _ => some a) [db] = [(db, a)] := by
    simp only [lookupsMade, ite_self]
  have hlookUp : ∀ item,
      (c.lookUp (fun _ => some a) item).station = Lookup.written item (db, a) := by
    intro item
    rw [Controller.lookUp_station, hc, hmade]
    rfl
  simp only [Controller.updateWithWebServices, lookUps_answered, List.length_map, List.drop_length,
    List.append_nil, List.map_map]
  exact List.map_congr_left fun item _ => hlookUp item

/-- A web lookup confirms a record, and another one brings the status back. -/
theorem written_twice {db : CIDDatabases} (hdb : db = .google ∨ db = .opencid)
    (item : BaseStationInformation) (status : CellIDDBStatus) (latitude longitude : ℚ) :
    Lookup.written (Lookup.written item (db, ⟨.confirmed, latitude, longitude⟩))
        (db, ⟨status, latitude, longitude⟩) =
      { item with
        latitude := latitude
        longitude := longitude
        dbStatus := status
        dbProvider := db } := by
  rcases hdb with rfl | rfl
  · by_cases hstatus : status = .confirmed <;>
      simp [Lookup.written, Lookup.take, Lookup.takeGoogle, Lookup.locate, Lookup.say, hstatus]
  · by_cases hstatus : status = .confirmed
    · simp [Lookup.written, Lookup.take, Lookup.takeOpenCellId, Lookup.locate, Lookup.say, hstatus]
    by_cases happroximated : status = .approximated <;>
      simp [Lookup.written, Lookup.take, Lookup.takeOpenCellId, Lookup.locate, Lookup.say, hstatus,
        happroximated]

/-- The web service is asked alone, about all records, and answers the same for each. -/
def askAgain (db : CIDDatabases) (status : CellIDDBStatus) (latitude longitude : ℚ) :
    List SessionEvent :=
  [.settings (db = .google) (db = .opencid) false true,
    .updateWithWebServices fun _ _ => some ⟨.confirmed, latitude, longitude⟩,
    .updateWithWebServices fun _ _ => some ⟨status, latitude, longitude⟩]

theorem run_askAgain {db : CIDDatabases} (hdb : db = .google ∨ db = .opencid) (s : Session)
    (status : CellIDDBStatus) (latitude longitude : ℚ) :
    (session.run s (askAgain db status latitude longitude)).1.controller.stations =
      s.controller.stations.map fun item => { item with
        latitude := latitude
        longitude := longitude
        dbStatus := status
        dbProvider := db } := by
  let c : Controller := { s.controller with
    useGoogle := db = .google
    useOpenCellId := db = .opencid
    useLocalDb := false
    pchIntegration := true }
  have hc : c.enabledDatabases = [db] := by
    rcases hdb with rfl | rfl <;> rfl
  let c' : Controller :=
    (c.updateWithWebServices fun _ _ => some ⟨.confirmed, latitude, longitude⟩).1
  have hc' : c'.enabledDatabases = [db] := hc
  change (c'.updateWithWebServices fun _ _ => some ⟨status, latitude, longitude⟩).1.stations = _
  rw [updateWithWebServices_single hc', updateWithWebServices_single hc, List.map_map]
  exact List.map_congr_left fun item _ => written_twice hdb item status latitude longitude

theorem builds_askAgain {networks : List GsmNetwork} {es : List SessionEvent}
    (hes : Builds networks es) (db : CIDDatabases) (status : CellIDDBStatus)
    (latitude longitude : ℚ) : Builds networks (es ++ askAgain db status latitude longitude) := by
  unfold Builds
  rw [session.along_append]
  exact ⟨hes, trivial, trivial, trivial, trivial⟩

/-- A coordinate of the web lookup can be another one, and the line is the same. -/
theorem exists_other_latitude {networks : List GsmNetwork} {es : List SessionEvent}
    (hes : Builds networks es) {item : BaseStationInformation} (hitem : item ∈ recordsAfter es)
    (hdb : item.dbProvider = .google ∨ item.dbProvider = .opencid) :
    ∃ es', Builds networks es' ∧ ∃ other ∈ recordsAfter es',
      csvLine other = csvLine item ∧ other.latitude ≠ item.latitude := by
  obtain ⟨latitude, hne, htruncate⟩ := exists_truncate_eq item.latitude
  refine ⟨_, builds_askAgain hes item.dbProvider item.dbStatus latitude item.longitude,
    { item with latitude := latitude }, ?_, ?_, hne⟩
  · unfold recordsAfter
    rw [session.run_append, run_askAgain hdb]
    exact List.mem_map.2 ⟨item, hitem, rfl⟩
  · unfold csvLine csvColumns
    rw [htruncate]

/-! ### The lines of the file -/

/-- A line has the fields of the header, and these determine what was read of the station. -/
structure LineFaithful (networks : List GsmNetwork) (item : BaseStationInformation)
    (line : Text) : Prop where
  fields : (csvFields line).length = (csvFields csvHeader).length
  determined : ∀ es, Builds networks es → ∀ other ∈ recordsAfter es,
    csvFields (csvLine other) = csvFields line → SameReading other item

/-- The provider has no separator, and no web lookup has set the coordinates. -/
def Exportable (item : BaseStationInformation) : Prop :=
  Text.contains ", ".toList item.provider = false ∧
    item.dbProvider ≠ .google ∧ item.dbProvider ≠ .opencid

instance (item : BaseStationInformation) : Decidable (Exportable item) :=
  inferInstanceAs (Decidable (_ ∧ _))

theorem lineFaithful_iff {networks : List GsmNetwork} {es : List SessionEvent}
    (hes : Builds networks es) {item : BaseStationInformation} (hitem : item ∈ recordsAfter es) :
    LineFaithful networks item (csvLine item) ↔ Exportable item := by
  have hrecorded : Recorded item := recorded_recordsAfter hes item hitem
  constructor
  · intro h
    have hweb : ¬(item.dbProvider = .google ∨ item.dbProvider = .opencid) := by
      intro hdb
      obtain ⟨es', hes', other, hother, hline, hne⟩ := exists_other_latitude hes hitem hdb
      exact hne (h.determined es' hes' other hother (congrArg csvFields hline)).latitude
    exact ⟨(length_csvFields_iff hrecorded).1 h.fields, not_or.1 hweb⟩
  · rintro ⟨hprovider, hgoogle, hopencid⟩
    refine ⟨(length_csvFields_iff hrecorded).2 hprovider, fun es' hes' other hother hsame => ?_⟩
    have hother : Recorded other := recorded_recordsAfter hes' other hother
    have hclean : Text.contains ", ".toList other.provider = false := by
      rw [← length_csvFields_iff hother, hsame]
      exact (length_csvFields_iff hrecorded).2 hprovider
    rw [csvFields_of_clean hother hclean, csvFields_of_clean hrecorded hprovider] at hsame
    exact sameReading_of_csvColumns hother hrecorded hgoogle hopencid hsame

theorem forall_lineFaithful_iff {networks : List GsmNetwork} {es : List SessionEvent}
    (hes : Builds networks es) :
    List.Forall₂ (LineFaithful networks) (recordsAfter es)
        (dataLines (csvHeader ++ ((recordsAfter es).map csvLine).flatten)) ↔
      ∀ item ∈ recordsAfter es, Exportable item := by
  rw [dataLines_content (recorded_recordsAfter hes), List.forall₂_map_right_iff,
    List.forall₂_same]
  exact forall₂_congr fun item hitem => lineFaithful_iff hes hitem

/-- The lines of an exported file have the fields of the header, and these determine what was
read of a station, just when no provider has a separator in its name and no web lookup has set
the coordinates of a station. -/
theorem export_csv_faithful_iff (networks : List GsmNetwork) (es : List SessionEvent)
    (hes : Builds networks es) (databasePath location : Text) :
    (∀ path content, (exportCsv databasePath location (recordsAfter es)).1 = some (path, content) →
        List.Forall₂ (LineFaithful networks) (recordsAfter es) (dataLines content)) ↔
      location = [] ∨ ∀ item ∈ recordsAfter es, Exportable item := by
  unfold exportCsv
  by_cases hlocation : location = []
  · rw [if_pos hlocation]
    exact iff_of_true (fun _ _ h => absurd h.symm (Option.some_ne_none _)) (Or.inl hlocation)
  · rw [if_neg hlocation, ← forall_lineFaithful_iff hes]
    constructor
    · exact fun h => Or.inr (h _ _ rfl)
    · rintro h path content hwritten
      obtain ⟨-, rfl⟩ := Prod.mk.inj (Option.some.inj hwritten)
      exact h.resolve_left hlocation

/-- The record of a cell, as the thread finds it in the output of a scan that prints it alone. -/
def readAlone (networks : List GsmNetwork) (p : CellPrint)
    (h : (scanned networks [] [p] 40).found.head?.isSome = true) : SessionEvent :=
  .foundBaseStation (Option.get _ h) fun _ => .ok

theorem builds_readAlone (networks : List GsmNetwork) (p : CellPrint)
    (h : (scanned networks [] [p] 40).found.head?.isSome = true) :
    Builds networks [readAlone networks p h] :=
  ⟨⟨[], [p], _, 40, List.prefix_rfl, List.mem_of_mem_head? (Option.get_mem h)⟩, trivial⟩

def cellAlone : List SessionEvent := [readAlone [] (cellPrint [30]) (by decide +kernel)]

theorem export_csv_faithful_iff_plain : ∃ path content,
    (exportCsv [] "Home".toList (recordsAfter cellAlone)).1 = some (path, content) ∧
      List.Forall₂ (LineFaithful []) (recordsAfter cellAlone) (dataLines content) :=
  ⟨_, _, rfl, (export_csv_faithful_iff [] cellAlone (builds_readAlone [] _ _) [] "Home".toList).2
    (Or.inr (by decide +kernel)) _ _ rfl⟩

/-- Two rows of `gsm_networks`. -/
def cellularOne : List GsmNetwork :=
  [⟨0x310, -1, "United States of America".toList⟩,
    ⟨0x310, 0x320, "Simth Bagley Inc, dba Cellular One".toList⟩]

def cellularOnePrint : CellPrint :=
  { cellPrint [30] with sysinfo := { (cellPrint [30]).sysinfo with mcc := 0x310, mnc := 0x320 } }

theorem export_csv_splits_provider : ¬ ∀ (networks : List GsmNetwork) (es : List SessionEvent),
    Builds networks es → ∀ databasePath location path content : Text,
    (exportCsv databasePath location (recordsAfter es)).1 = some (path, content) →
      List.Forall₂ (LineFaithful networks) (recordsAfter es) (dataLines content) := by
  intro h
  have hes := builds_readAlone cellularOne cellularOnePrint (by decide +kernel)
  have hall := (forall_lineFaithful_iff hes).1 (h _ _ hes [] "Home".toList _ _ rfl)
  revert hall
  decide +kernel

end ImsiCatcher

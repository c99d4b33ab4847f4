import ImsiCatcher.RecordChanges
import ImsiCatcher.RuleSession

/-!
# Verdicts that are out of date

A shown verdict is up to date if an evaluation of the records, with the rules, the evaluator
and the memories as they are now, would write it again. An evaluation leaves such verdicts,
since a change rule that is asked again repeats itself. Operations that change what a rule
reads without an evaluation leave them only where the rule returns the same.
-/

namespace ImsiCatcher
namespace RuleSession

def report (s : RuleSession) (arfcn : ℤ) : RuleResults :=
  resultsOf s.base.active fun rule => rule.outcome s.base s.stations s.memory arfcn

def arfcns (s : RuleSession) : List ℤ := s.stations.map (·.arfcn)

def due (s : RuleSession) : Verdicts :=
  (s.arfcns.map fun arfcn => some (s.evaluator.evaluate {} .inserted (s.report arfcn)).1,
    s.arfcns.map s.report)

/-- Whichever order the dictionaries have, an evaluation would write what is shown. -/
def UpToDate (s : RuleSession) : Prop :=
  ∀ order, (s.evaluate order).map (fun r => writtenBy r.1) = some s.shown

def Distinct (s : RuleSession) : Prop := s.arfcns.Nodup

def judgedBy (verdict : ℤ → RuleResult) (station : BaseStationInformation) :
    BaseStationInformation :=
  { station with evaluation := some (verdict station.arfcn) }

structure Evaluated (s : RuleSession) (r : List Assessed × RuleMemory) : Prop where
  written : writtenBy r.1 = s.due
  stations : ∃ verdict, r.1.map (·.station) = s.stations.map (judgedBy verdict)
  remembered : ∀ rule : Rule, rule.IsChange → s.base.active rule = true →
    ∀ arfcn item, recordOf arfcn s.stations = some item →
      rule.remembered r.2 arfcn = some (rule.change {} item (rule.remembered s.memory arfcn))

variable {s : RuleSession}

theorem evaluated (h : s.Distinct) (order : DictOrder) :
    ∃ r, s.evaluate order = some r ∧ s.Evaluated r := by
  have hthreshold : s.base.settings.neighboursThreshold < 0 := by
    change ({} : RuleSettings).neighboursThreshold < 0
    decide
  obtain ⟨r, hr⟩ := Option.isSome_iff_exists.1
    (@evaluate_isSome s.base s.stations h hthreshold s.evaluator order s.memory)
  have hreport : ∀ station ∈ s.stations,
      reportAt s.base s.stations s.memory station.arfcn = s.report station.arfcn :=
    fun station hmem => reportAt_eq (recordOf_of_mem h hmem) hthreshold
  have hassessed : r.1 = s.stations.map fun station =>
      assess s.base s.evaluator order station (s.report station.arfcn) := by
    have heq := @evaluate_eq s.base s.evaluator order s.stations s.memory h
    rw [hr] at heq
    split at heq
    · rw [(Prod.ext_iff.1 (Option.some_inj.1 heq)).1]
      exact List.map_congr_left fun station hmem => by rw [hreport station hmem]
    · exact absurd heq (by simp)
  refine ⟨r, hr, ?_, ?_, ?_⟩
  · rw [writtenBy, hassessed, List.map_map, List.map_map, due, arfcns, List.map_map, List.map_map]
    refine congrArg (·, _) (List.map_congr_left fun station _ => ?_)
    exact congrArg some (evaluate_order _ _ _ _ _)
  · refine ⟨fun arfcn => (s.evaluator.evaluate {} order (s.report arfcn)).1, ?_⟩
    rw [hassessed, List.map_map]
    rfl
  · intro rule hrule hactive arfcn item hitem
    rcases evaluate_at h hr arfcn with ⟨hnone, -⟩ | ⟨item', c, hitem', hchecked, -, hagree⟩
    · rw [hnone] at hitem
      exact absurd hitem (by simp)
    · obtain rfl := Option.some_inj.1 (hitem'.symm.trans hitem)
      rw [hagree.remembered rule]
      exact (checkAll_change hrule hactive hitem' (mem_controllerRules rule)
        nodup_controllerRules hchecked).2

theorem upToDate_iff (h : s.Distinct) : s.UpToDate ↔ s.shown = s.due := by
  have hwritten : ∀ order, (s.evaluate order).map (fun r => writtenBy r.1) = some s.due := by
    intro order
    obtain ⟨r, hr, hevaluated⟩ := evaluated h order
    rw [hr, Option.map_some, hevaluated.written]
  constructor
  · intro hshown
    exact Option.some_inj.1 ((hshown .inserted).symm.trans (hwritten .inserted))
  · intro heq order
    rw [hwritten, heq]

/-! ### An evaluation -/

/-- The state behind an evaluation. -/
theorem triggerEvaluation_eq (h : s.Distinct) (order : DictOrder) :
    ∃ r, s.Evaluated r ∧ s.triggerEvaluation order =
      { s.withStations (r.1.map (·.station)) with
        reports := r.1.map (·.rulesReport)
        memory := r.2 } := by
  obtain ⟨r, hr, hevaluated⟩ := evaluated h order
  refine ⟨r, hevaluated, ?_⟩
  rw [triggerEvaluation, hr]

theorem triggerEvaluation_distinct (h : s.Distinct) (order : DictOrder) :
    (s.triggerEvaluation order).Distinct := by
  obtain ⟨r, hevaluated, heq⟩ := triggerEvaluation_eq h order
  obtain ⟨verdict, hstations⟩ := hevaluated.stations
  rw [heq]
  change ((r.1.map (·.station)).map (·.arfcn)).Nodup
  rw [hstations, List.map_map]
  exact h

theorem triggerEvaluation_shown (h : s.Distinct) (order : DictOrder) :
    (s.triggerEvaluation order).shown = s.due := by
  obtain ⟨r, hevaluated, heq⟩ := triggerEvaluation_eq h order
  rw [heq, ← hevaluated.written]
  change ((r.1.map (·.station)).map (·.evaluation), _) = _
  rw [List.map_map]
  rfl

theorem due_eq_iff {s s' : RuleSession} (hevaluator : s'.evaluator = s.evaluator)
    (harfcns : s'.arfcns = s.arfcns) :
    s'.due = s.due ↔ ∀ arfcn ∈ s.arfcns, s'.report arfcn = s.report arfcn := by
  rw [due, due, hevaluator, harfcns]
  constructor
  · intro heq
    exact List.map_inj_left.1 (congrArg Prod.snd heq)
  · intro hreport
    refine Prod.ext (List.map_congr_left fun arfcn hmem => ?_) (List.map_congr_left hreport)
    rw [hreport arfcn hmem]

/-- An evaluation would be followed by the same one. -/
theorem triggerEvaluation_due (h : s.Distinct) (order : DictOrder) :
    (s.triggerEvaluation order).due = s.due := by
  obtain ⟨r, hevaluated, heq⟩ := triggerEvaluation_eq h order
  obtain ⟨verdict, hverdict⟩ := hevaluated.stations
  have hstations : (s.triggerEvaluation order).stations = s.stations.map (judgedBy verdict) := by
    rw [heq]
    exact hverdict
  have hmemory : (s.triggerEvaluation order).memory = r.2 := by rw [heq]
  have hbase : (s.triggerEvaluation order).base = s.base := by
    rw [heq]
    rfl
  refine (due_eq_iff (by rw [heq]; rfl) ?_).2 ?_
  · rw [arfcns, hstations, List.map_map]
    rfl
  intro arfcn hmem
  obtain ⟨item, hlisted, rfl⟩ := List.mem_map.1 hmem
  have hitem := recordOf_of_mem h hlisted
  rw [report, report, hbase, hstations, hmemory]
  refine resultsOf_inj.2 fun rule hactive => ?_
  have hrecord : recordOf item.arfcn (s.stations.map (judgedBy verdict)) =
      some (judgedBy verdict item) := by
    rw [recordOf_map (f := judgedBy verdict) fun _ => rfl, hitem]
    rfl
  have hframe : rule.outcome s.base (s.stations.map (judgedBy verdict)) r.2 item.arfcn =
      rule.outcome s.base s.stations r.2 item.arfcn := by
    refine Rule.outcome_frame rfl ?_ (fun _ => rfl) (fun _ => ?_) (fun _ => ?_) r.2
    · rw [List.map_map]
      rfl
    · rw [hrecord, hitem]
      rfl
    · rw [hrecord, hitem]
      rfl
  rw [hframe]
  by_cases hrule : rule.IsChange
  · rw [Rule.outcome_change hrule hitem, Rule.outcome_change hrule hitem,
      hevaluated.remembered rule hrule hactive _ item hitem]
    exact congrArg Remembered.result (Rule.change_change hrule _ item _)
  · exact Rule.outcome_congr fun hchange => absurd hchange hrule

theorem triggerEvaluation_upToDate (h : s.Distinct) (order : DictOrder) :
    (s.triggerEvaluation order).UpToDate := by
  rw [upToDate_iff (triggerEvaluation_distinct h order), triggerEvaluation_shown h,
    triggerEvaluation_due h]

/-! ### An operation without an evaluation -/

/-- The records of `s'` are those of `s`, each with another value in fields that at most one
rule reads, and no verdict is written. -/
structure Rewrites (s s' : RuleSession)
    (f : BaseStationInformation → BaseStationInformation) : Prop where
  stations : s'.stations = s.stations.map f
  core : ∀ station, (f station).core = station.core
  evaluation : ∀ station, (f station).evaluation = station.evaluation
  reports : s'.reports = s.reports
  memory : s'.memory = s.memory
  evaluator : s'.evaluator = s.evaluator

namespace Rewrites
variable {s' : RuleSession} {f : BaseStationInformation → BaseStationInformation}

theorem arfcn (h : s.Rewrites s' f) (station : BaseStationInformation) :
    (f station).arfcn = station.arfcn := by
  have hcore := congrArg BaseStationInformation.arfcn (h.core station)
  exact hcore

theorem arfcns (h : s.Rewrites s' f) : s'.arfcns = s.arfcns := by
  rw [RuleSession.arfcns, h.stations, List.map_map]
  exact List.map_congr_left fun station _ => h.arfcn station

/-- No record is written at all. -/
theorem of_stations (hstations : s'.stations = s.stations) (hreports : s'.reports = s.reports)
    (hmemory : s'.memory = s.memory) (hevaluator : s'.evaluator = s.evaluator) :
    s.Rewrites s' id where
  stations := hstations.trans (List.map_id _).symm
  core _ := rfl
  evaluation _ := rfl
  reports := hreports
  memory := hmemory
  evaluator := hevaluator

theorem distinct (h : s.Rewrites s' f) (hs : s.Distinct) : s'.Distinct := by
  rw [Distinct, h.arfcns]
  exact hs

theorem recordOf (h : s.Rewrites s' f) (hs : s.Distinct) {station : BaseStationInformation}
    (hmem : station ∈ s.stations) :
    ImsiCatcher.recordOf station.arfcn s'.stations = some (f station) := by
  rw [h.stations, recordOf_map h.arfcn, recordOf_of_mem hs hmem]
  rfl

theorem shown (h : s.Rewrites s' f) : s'.shown = s.shown := by
  rw [RuleSession.shown, h.stations, h.reports, List.map_map]
  exact congrArg (·, s.reports) (List.map_congr_left fun station _ => h.evaluation station)

/-- What is shown stays up to date just when each report that is due stays. -/
theorem upToDate_iff (h : s.Rewrites s' f) (hs : s.Distinct) (hup : s.UpToDate) :
    s'.UpToDate ↔ ∀ arfcn ∈ s.arfcns, s'.report arfcn = s.report arfcn := by
  rw [RuleSession.upToDate_iff (h.distinct hs), h.shown, (RuleSession.upToDate_iff hs).1 hup,
    eq_comm]
  exact due_eq_iff h.evaluator h.arfcns

/-- Where one rule only reads what has changed, it alone decides. -/
theorem upToDate_iff_outcome (h : s.Rewrites s' f) (hs : s.Distinct) (hup : s.UpToDate)
    (hactive : s'.base.active = s.base.active) {rule : Rule}
    (hcache : rule ≠ .locationAreaDatabase → s'.cache = s.cache)
    (hstatus : rule ≠ .cellIDDatabase → ∀ station, (f station).dbStatus = station.dbStatus)
    (hscan : rule ≠ .pch → ∀ station, (f station).pchFields = station.pchFields) :
    s'.UpToDate ↔ (s.base.active rule = true → ∀ station ∈ s.stations,
      rule.outcome s'.base s'.stations s.memory station.arfcn =
        rule.outcome s.base s.stations s.memory station.arfcn) := by
  have hother : ∀ other, other ≠ rule → ∀ arfcn,
      other.outcome s'.base s'.stations s.memory arfcn =
        other.outcome s.base s.stations s.memory arfcn := by
    intro other hne arfcn
    have hsettings : s'.base.settings = s.base.settings := rfl
    refine Rule.outcome_frame hsettings ?_ ?_ ?_ ?_ s.memory
    · rw [h.stations, List.map_map]
      exact List.map_congr_left fun station _ => h.core station
    · rintro rfl
      exact congrArg some (hcache hne.symm)
    · rintro rfl
      rw [h.stations, recordOf_map h.arfcn, Option.map_map]
      exact congrArg (Option.map · _) (funext (hstatus hne.symm))
    · rintro rfl
      rw [h.stations, recordOf_map h.arfcn, Option.map_map]
      exact congrArg (Option.map · _) (funext (hscan hne.symm))
  rw [h.upToDate_iff hs hup]
  simp only [report, hactive, h.memory, resultsOf_inj]
  constructor
  · intro hreport hrule station hmem
    exact hreport station.arfcn (List.mem_map_of_mem hmem) rule hrule
  · intro houtcome arfcn hmem other hrule
    obtain ⟨station, hstation, rfl⟩ := List.mem_map.1 hmem
    by_cases hne : other = rule
    · subst hne
      exact houtcome hrule station hstation
    · exact hother other hne station.arfcn

end Rewrites

end RuleSession

/-! ### What the three rules read -/

def PchResult.fields (values : PchResult) : PchFields :=
  ⟨true, values.assignmentsNonHopping, values.assignmentsHopping, values.pagings⟩

/-- The record holds a scan already, and both scans are accepted or neither is. -/
def SameScan (settings : RuleSettings) (station : BaseStationInformation) (values : PchResult) :
    Prop :=
  station.pchScanDone = true ∧
    (station.pchFields.Accepted settings ↔ values.fields.Accepted settings)

instance (settings : RuleSettings) (station : BaseStationInformation) (values : PchResult) :
    Decidable (SameScan settings station values) :=
  inferInstanceAs (Decidable (_ ∧ (_ ↔ _)))

theorem verdict_fields_eq_iff (settings : RuleSettings) (station : BaseStationInformation)
    (values : PchResult) :
    values.fields.verdict settings = station.pchFields.verdict settings ↔
      SameScan settings station values := by
  have hnew : values.fields.verdict settings =
      if values.fields.Accepted settings then .ok else .critical :=
    if_neg Bool.noConfusion
  have hold : station.pchFields.verdict settings = if station.pchScanDone = false then .ignore
      else if station.pchFields.Accepted settings then .ok else .critical := rfl
  rw [hnew, hold, SameScan]
  cases station.pchScanDone with
  | false =>
    by_cases hscan : values.fields.Accepted settings <;> simp [hscan]
  | true =>
    by_cases hscan : values.fields.Accepted settings <;>
      by_cases hheld : station.pchFields.Accepted settings <;> simp [hscan, hheld]

/-- Neither status or both are that of a cell that was not looked up, and likewise of one that
was confirmed. -/
def SameStanding (status status' : CellIDDBStatus) : Prop :=
  (status = .notLookedUp ↔ status' = .notLookedUp) ∧ (status = .confirmed ↔ status' = .confirmed)

instance (status status' : CellIDDBStatus) : Decidable (SameStanding status status') :=
  inferInstanceAs (Decidable ((_ ↔ _) ∧ (_ ↔ _)))

theorem verdict_status_eq_iff (status status' : CellIDDBStatus) :
    status'.verdict = status.verdict ↔ SameStanding status status' := by
  cases status <;> cases status' <;> decide

/-- Whether the entry of a cell admits the level of a record, where a cache has one. -/
def levelIn (cache : List LACDBEntry) (station : BaseStationInformation) : Option Bool :=
  (getStation cache station.cell).map fun entry =>
    (entry.rxmin : ℚ) - |entry.rxmin * ({} : RuleSettings).dbRxThreshold| ≤ station.rxlev ∧
      (station.rxlev : ℚ) ≤ entry.rxmax + |entry.rxmax * ({} : RuleSettings).dbRxThreshold|

def levelVerdict : Option Bool → RuleResult
  | none => .ignore
  | some true => .ok
  | some false => .critical

theorem levelVerdict_injective : Function.Injective levelVerdict := by
  intro level level' h
  rcases level with _ | _ | _ <;> rcases level' with _ | _ | _ <;>
    first | rfl | exact absurd h (by decide)

namespace Rule
variable {base : RuleBase} {stations : List BaseStationInformation} {memory : RuleMemory}
  {arfcn : ℤ} {item : BaseStationInformation}

theorem outcome_pch (hitem : recordOf arfcn stations = some item) :
    pch.outcome base stations memory arfcn = item.pchFields.verdict base.settings := by
  rw [outcome, check, pchRule_eq_verdict, hitem]
  rfl

theorem outcome_cellIDDatabase (hitem : recordOf arfcn stations = some item) :
    cellIDDatabase.outcome base stations memory arfcn = item.dbStatus.verdict := by
  rw [outcome, check, cellIDDatabaseRule_eq, hitem]
  rfl

theorem outcome_locationAreaDatabase {cache : List LACDBEntry}
    (hsettings : base.settings = {}) (hcache : base.database = some cache)
    (hitem : recordOf arfcn stations = some item) :
    locationAreaDatabase.outcome base stations memory arfcn =
      levelVerdict (levelIn cache item) := by
  rw [outcome, check, hsettings, hcache, locationAreaDatabaseRule, hitem, levelIn]
  simp only [Option.map_some, Option.getD_some]
  cases getStation cache item.cell with
  | none => rfl
  | some entry =>
    dsimp only [Option.map_some]
    split_ifs with hlevel
    · rw [decide_eq_true hlevel]
      rfl
    · rw [decide_eq_false hlevel]
      rfl

end Rule

namespace RuleSession

/-! ### Which operations keep the verdicts up to date -/

/-- What changes without an evaluation makes no difference to an active rule. -/
def Keeps (s : RuleSession) : RuleSessionEvent → Prop
  | .pchScanClicked integration _ _ =>
    integration = s.controller.pchIntegration ∨ s.stations = []
  | .pchDone arfcn values failed => failed = false → s.controller.pchIntegration = true →
    ∀ station ∈ s.stations, station.arfcn = arfcn → SameScan {} station values
  | .updateDatabases _ _ _ cache | .updateLocationDatabase cache =>
    s.active .locationAreaDatabase = true →
      ∀ station ∈ s.stations, levelIn cache station = levelIn s.cache station
  | .updateWithWebServices answers => s.active .cellIDDatabase = true →
    ∀ station ∈ s.controller.reached answers, SameStanding station.dbStatus
      (statusFrom (answers station.arfcn) s.controller.enabledDatabases station.dbStatus)
  | _ => True

variable {s : RuleSession}

/-- What the controller does besides is not seen by an evaluation. -/
theorem upToDate_undisturbed (hs : s.Distinct) (hup : s.UpToDate) {c : Controller}
    (hc : s.controller.Undisturbed c) : ({ s with controller := c } : RuleSession).UpToDate := by
  have hrewrites : s.Rewrites { s with controller := c } id :=
    Rewrites.of_stations hc.stations rfl rfl rfl
  have hbase : ({ s with controller := c } : RuleSession).base = s.base := by
    rw [base, base, hc.pchIntegration]
  have hsame : ({ s with controller := c } : RuleSession).stations = s.stations := hc.stations
  rw [hrewrites.upToDate_iff hs hup]
  intro arfcn _
  rw [report, report, hbase, hsame]

theorem upToDate_pchScanClicked (hs : s.Distinct) (hup : s.UpToDate) (integration : Bool)
    (arfcns : List ℤ) (timeout : ℤ) :
    (s.next (.pchScanClicked integration arfcns timeout)).UpToDate ↔
      integration = s.controller.pchIntegration ∨ s.stations = [] := by
  set c := ((s.integrate integration).controller.normalPchScan arfcns timeout).1
  obtain ⟨hstations, hintegration⟩ : (s.integrate integration).controller.Undisturbed c :=
    Controller.normalPchScan_undisturbed _ arfcns timeout
  change ({ s with controller := c } : RuleSession).UpToDate ↔ _
  by_cases hsame : integration = s.controller.pchIntegration
  · exact iff_of_true (upToDate_undisturbed hs hup ⟨hstations, hintegration.trans hsame⟩)
      (Or.inl hsame)
  have hrewrites : s.Rewrites { s with controller := c } id :=
    Rewrites.of_stations hstations rfl rfl rfl
  rw [hrewrites.upToDate_iff hs hup, or_iff_right hsame]
  constructor
  · intro hreport
    by_contra hne
    obtain ⟨station, hmem⟩ := List.exists_mem_of_ne_nil _ hne
    have hactive := active_of_resultsOf (hreport station.arfcn (List.mem_map_of_mem hmem))
    refine hsame ?_
    have hpch := congrFun hactive .pch
    exact hintegration.symm.trans hpch
  · intro hnil arfcn hmem
    rw [RuleSession.arfcns, hnil] at hmem
    exact absurd hmem List.not_mem_nil

theorem upToDate_cache (hs : s.Distinct) (hup : s.UpToDate) {s' : RuleSession}
    (h : s.Rewrites s' id) (hactive : s'.base.active = s.base.active) :
    s'.UpToDate ↔ (s.active .locationAreaDatabase = true →
      ∀ station ∈ s.stations, levelIn s'.cache station = levelIn s.cache station) := by
  rw [h.upToDate_iff_outcome hs hup hactive (fun hne => absurd rfl hne) (fun _ _ => rfl)
    fun _ _ => rfl]
  refine imp_congr Iff.rfl (forall₂_congr fun station hmem => ?_)
  rw [Rule.outcome_locationAreaDatabase rfl rfl (recordOf_of_mem hs hmem),
    Rule.outcome_locationAreaDatabase rfl rfl (h.recordOf hs hmem)]
  exact levelVerdict_injective.eq_iff

theorem upToDate_pchDone (hs : s.Distinct) (hup : s.UpToDate) (arfcn : ℤ) (values : PchResult)
    (failed : Bool) :
    (s.next (.pchDone arfcn values failed)).UpToDate ↔
      (failed = false → s.controller.pchIntegration = true →
        ∀ station ∈ s.stations, station.arfcn = arfcn → SameScan {} station values) := by
  have hintegration := s.controller.pchDoneCallback_pchIntegration arfcn values failed
  cases failed with
  | true =>
    have hstations := s.controller.pchDoneCallback_stations arfcn values true
    exact iff_of_true (upToDate_undisturbed hs hup ⟨hstations, hintegration⟩)
      fun h => absurd h (by decide)
  | false =>
    have hrewrites : s.Rewrites (s.next (.pchDone arfcn values false))
        (s.controller.integrated arfcn values) := by
      refine ⟨s.controller.pchDoneCallback_map arfcn values, ?_, ?_, rfl, rfl, rfl⟩ <;>
        · intro station
          unfold Controller.integrated
          split <;> rfl
    have hactive : (s.next (.pchDone arfcn values false)).base.active = s.base.active := by
      funext rule
      change (if rule = .pch then _ else s.active rule) = if rule = .pch then _ else s.active rule
      rw [← hintegration]
      rfl
    have hstatus : ∀ station,
        (s.controller.integrated arfcn values station).dbStatus = station.dbStatus := by
      intro station
      unfold Controller.integrated
      split <;> rfl
    rw [hrewrites.upToDate_iff_outcome hs hup hactive (fun _ => rfl) (fun _ => hstatus)
      fun hne => absurd rfl hne, forall_prop_of_true rfl]
    refine imp_congr_right fun hpch => forall₂_congr fun station hmem => ?_
    rw [Rule.outcome_pch (recordOf_of_mem hs hmem), Rule.outcome_pch (hrewrites.recordOf hs hmem)]
    by_cases harfcn : station.arfcn = arfcn
    · have hfields : (s.controller.integrated arfcn values station).pchFields = values.fields := by
        rw [Controller.integrated, if_pos ⟨harfcn, hpch⟩]
        rfl
      rw [hfields, forall_prop_of_true harfcn]
      exact verdict_fields_eq_iff {} station values
    · have hsame : s.controller.integrated arfcn values station = station :=
        if_neg fun h => harfcn h.1
      rw [hsame]
      exact iff_of_true rfl fun h => absurd h harfcn

theorem upToDate_updateWithWebServices (hs : s.Distinct) (hup : s.UpToDate)
    (answers : ℤ → CIDDatabases → Option LookupAnswer) :
    (s.next (.updateWithWebServices answers)).UpToDate ↔
      (s.active .cellIDDatabase = true → ∀ station ∈ s.controller.reached answers,
        SameStanding station.dbStatus (statusFrom (answers station.arfcn)
          s.controller.enabledDatabases station.dbStatus)) := by
  have hlocated := s.controller.lookedUp_located answers
  have hrewrites : s.Rewrites (s.next (.updateWithWebServices answers))
      (s.controller.lookedUp answers) := by
    refine ⟨Controller.updateWithWebServices_map hs answers, ?_, ?_, rfl, rfl, rfl⟩ <;>
      · intro station
        obtain ⟨_, _, _, _, heq⟩ := hlocated station
        simp only [heq, BaseStationInformation.core]
  have hscan : ∀ station,
      (s.controller.lookedUp answers station).pchFields = station.pchFields := by
    intro station
    obtain ⟨_, _, _, _, heq⟩ := hlocated station
    rw [heq]
    rfl
  rw [hrewrites.upToDate_iff_outcome hs hup rfl (fun _ => rfl) (fun hne => absurd rfl hne)
    fun _ => hscan]
  refine imp_congr Iff.rfl ⟨fun houtcome station hreached => ?_, fun hstanding station hmem => ?_⟩
  · have hmem : station ∈ s.stations := List.mem_of_mem_take hreached
    have hsame := houtcome station hmem
    rw [Rule.outcome_cellIDDatabase (recordOf_of_mem hs hmem),
      Rule.outcome_cellIDDatabase (hrewrites.recordOf hs hmem), Controller.lookedUp,
      if_pos hreached, Controller.lookUp_dbStatus] at hsame
    exact (verdict_status_eq_iff _ _).1 hsame
  · rw [Rule.outcome_cellIDDatabase (recordOf_of_mem hs hmem),
      Rule.outcome_cellIDDatabase (hrewrites.recordOf hs hmem), Controller.lookedUp]
    split
    · rename_i hreached
      rw [Controller.lookUp_dbStatus]
      exact (verdict_status_eq_iff _ _).2 (hstanding station hreached)
    · rfl

/-- The operations that only tell the controller keep the records and what is up to date. -/
theorem keeps_undisturbed (hs : s.Distinct) {c : Controller} (hc : s.controller.Undisturbed c) :
    ({ s with controller := c } : RuleSession).arfcns = s.arfcns ∧
      (s.UpToDate → (({ s with controller := c } : RuleSession).UpToDate ↔ True)) :=
  ⟨congrArg (List.map BaseStationInformation.arfcn) hc.stations,
    fun hup => iff_true_intro (upToDate_undisturbed hs hup hc)⟩

/-- An operation evaluates what it has prepared, or keeps to the ARFCNs of the records. -/
theorem next_cases (hs : s.Distinct) (e : RuleSessionEvent) :
    (∃ (s' : RuleSession) (order : DictOrder),
      s.next e = s'.triggerEvaluation order ∧ s'.Distinct ∧ s.Keeps e) ∨
    (s.next e).arfcns = s.arfcns ∧ (s.UpToDate → ((s.next e).UpToDate ↔ s.Keeps e)) := by
  cases e with
  | startScan => exact Or.inr (keeps_undisturbed hs s.controller.startScan_undisturbed)
  | stopScan => exact Or.inr (keeps_undisturbed hs s.controller.stopScan_undisturbed)
  | foundBaseStation p order =>
    exact Or.inl ⟨_, order, rfl, nodup_addStation hs p.station, trivial⟩
  | triggerEvaluation order => exact Or.inl ⟨s, order, rfl, hs, trivial⟩
  | setEvaluator evaluator order => exact Or.inl ⟨_, order, rfl, hs, trivial⟩
  | updateRules active order => exact Or.inl ⟨_, order, rfl, hs, trivial⟩
  | pchClosed integration order => exact Or.inl ⟨_, order, rfl, hs, trivial⟩
  | pchScanClicked integration arfcns timeout =>
    have hscan := (s.integrate integration).controller.normalPchScan_undisturbed arfcns timeout
    exact Or.inr ⟨congrArg (List.map BaseStationInformation.arfcn) hscan.stations,
      fun hup => upToDate_pchScanClicked hs hup integration arfcns timeout⟩
  | userPchScan provider =>
    exact Or.inr (keeps_undisturbed hs (s.controller.userPchScan_undisturbed provider))
  | pchDone arfcn values failed =>
    refine Or.inr ⟨?_, fun hup => upToDate_pchDone hs hup arfcn values failed⟩
    change (s.controller.pchDoneCallback arfcn values failed).1.stations.map (·.arfcn) = _
    rw [Controller.pchDoneCallback_stations]
    split
    · rfl
    · exact s.controller.integratePch_arfcns arfcn values
  | updateDatabases useGoogle useOpenCellId useLocalDb cache =>
    exact Or.inr ⟨rfl, fun hup =>
      upToDate_cache hs hup (Rewrites.of_stations rfl rfl rfl rfl) rfl⟩
  | updateLocationDatabase cache =>
    exact Or.inr ⟨rfl, fun hup =>
      upToDate_cache hs hup (Rewrites.of_stations rfl rfl rfl rfl) rfl⟩
  | updateWithWebServices answers =>
    exact Or.inr ⟨s.controller.updateWithWebServices_arfcns answers,
      fun hup => upToDate_updateWithWebServices hs hup answers⟩
  | loadProject project order =>
    exact Or.inl ⟨_, order, rfl, project.nodup_stations, trivial⟩

theorem next_distinct (hs : s.Distinct) (e : RuleSessionEvent) : (s.next e).Distinct := by
  rcases next_cases hs e with ⟨s', order, heq, hs', -⟩ | ⟨harfcns, -⟩
  · rw [heq]
    exact triggerEvaluation_distinct hs' order
  · rw [Distinct, harfcns]
    exact hs

/-- A step keeps the verdicts up to date just when it meets the condition. -/
theorem upToDate_next_iff (hs : s.Distinct) (hup : s.UpToDate) (e : RuleSessionEvent) :
    (s.next e).UpToDate ↔ s.Keeps e := by
  rcases next_cases hs e with ⟨s', order, heq, hs', hkeeps⟩ | ⟨-, hiff⟩
  · rw [heq]
    exact iff_of_true (triggerEvaluation_upToDate hs' order) hkeeps
  · exact hiff hup

theorem distinct_run (es : List RuleSessionEvent) : (ruleSession.run {} es).1.Distinct := by
  have hinit : ({} : RuleSession).Distinct := List.nodup_nil
  exact ruleSession.always_run (I := Distinct) (fun _ e hs => next_distinct hs e) hinit es

end RuleSession

/-- The shown verdicts and rule results are those of an evaluation in every state of a run just
when whatever changes without an evaluation makes no difference to an active rule. -/
theorem verdicts_up_to_date_iff (es : List RuleSessionEvent) :
    (∀ n, (ruleSession.run {} (es.take n)).1.UpToDate) ↔
      ruleSession.Along RuleSession.Keeps {} es := by
  have hinit : ({} : RuleSession).Distinct ∧ ({} : RuleSession).UpToDate :=
    ⟨List.nodup_nil, fun _ => rfl⟩
  have hstep : ∀ (s : RuleSession) (e : RuleSessionEvent), s.Distinct ∧ s.UpToDate →
      ((ruleSession.step s e).1.Distinct ∧ (ruleSession.step s e).1.UpToDate ↔ s.Keeps e) := by
    rintro s e ⟨hs, hup⟩
    have hnext : (ruleSession.step s e).1.Distinct := RuleSession.next_distinct hs e
    rw [and_iff_right hnext]
    exact RuleSession.upToDate_next_iff hs hup e
  rw [← ruleSession.reached_iff_along hstep hinit]
  exact forall_congr' fun n => (and_iff_right (RuleSession.distinct_run _)).symm

/-- A cell whose unique cell id was found in order, and a scan that sees an assignment without
hopping. -/
def staleRun : List RuleSessionEvent :=
  [.updateRules (fun rule => rule = .uniqueCellID) .inserted, .foundBaseStation cellOne .inserted,
    .pchScanClicked true [20] 10, .pchDone 20 nonHoppingScan false]

/-- The verdict stays `Ok`, where an evaluation would write `Critical`. -/
theorem verdicts_out_of_date :
    ¬ ∀ es : List RuleSessionEvent, (ruleSession.run {} es).1.UpToDate := by
  intro h
  have hstale := h staleRun .inserted
  revert hstale
  decide +kernel

end ImsiCatcher

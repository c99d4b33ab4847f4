import ImsiCatcher.ChangeRules
import ImsiCatcher.DiscoveryOrder
import ImsiCatcher.GroupTally

/-!
# What each rule makes of a record

The checks of an ARFCN go one after the other, but no rule sees what another one remembers.
A report therefore lists what each active rule makes of the ARFCN by itself, and two reports
are compared rule by rule. Most rules read the same few fields of the records; the status of
the database lookup and the counts of a PCH scan are read by one rule each.
-/

namespace ImsiCatcher
namespace Rule

/-- What a rule returns for an ARFCN, with the memories as they are. -/
def outcome (rule : Rule) (base : RuleBase) (stations : List BaseStationInformation)
    (memory : RuleMemory) (arfcn : ℤ) : RuleResult :=
  ((rule.check base arfcn stations memory).map (·.1)).getD .ignore

variable {rule : Rule} {base : RuleBase} {stations : List BaseStationInformation} {arfcn : ℤ}
  {memory : RuleMemory} {item : BaseStationInformation}

theorem outcome_change (hrule : rule.IsChange) (hitem : recordOf arfcn stations = some item) :
    rule.outcome base stations memory arfcn =
      (rule.change base.settings item (rule.remembered memory arfcn)).result := by
  obtain ⟨after, hafter, -⟩ :
      ∃ after, rule.check base arfcn stations memory = some (_, after) ∧ _ :=
    check_change hrule hitem memory
  rw [outcome, hafter]
  rfl

/-- A rule reads nothing but what it remembers itself. -/
theorem outcome_congr {m m' : RuleMemory}
    (h : rule.IsChange → rule.remembered m arfcn = rule.remembered m' arfcn) :
    rule.outcome base stations m arfcn = rule.outcome base stations m' arfcn := by
  rcases rule.check_cases base arfcn stations with ⟨-, -, result, hresult⟩ | rfl | rfl
  · rw [outcome, outcome, hresult, hresult]
    cases result <;> rfl
  · have hold : m.oldLac arfcn = m'.oldLac arfcn := h (Or.inl rfl)
    simp only [outcome, check, lacChangeRule, hold, Option.map_map]
    rfl
  · have hold : m.oldRx arfcn = m'.oldRx arfcn := h (Or.inr rfl)
    simp only [outcome, check, rxChangeRule, hold, Option.map_map]
    rfl

/-- Both change rules are `changeRule`, with another comparison. -/
theorem change_eq_changeRule (hrule : rule.IsChange) (settings : RuleSettings)
    (item : BaseStationInformation) : ∃ agrees next value, ∀ m,
      rule.change settings item m = changeRule agrees next value item.timesScanned m := by
  rcases hrule with rfl | rfl
  · exact ⟨fun old new => new = old, fun old _ => old, item.lac, fun _ => rfl⟩
  · exact ⟨fun old new => (old : ℚ) - |old * settings.chRxThreshold| ≤ new ∧
      (new : ℚ) ≤ old + |old * settings.chRxThreshold|, fun _ new => new, item.rxlev, fun _ => rfl⟩

/-- A change rule that is asked again about the same record repeats itself. -/
theorem change_change (hrule : rule.IsChange) (settings : RuleSettings)
    (item : BaseStationInformation) (old : Option Remembered) :
    rule.change settings item (some (rule.change settings item old)) =
      rule.change settings item old := by
  obtain ⟨agrees, next, value, hchange⟩ := change_eq_changeRule hrule settings item
  rw [hchange, hchange]
  cases old with
  | none => simp [changeRule]
  | some old =>
    by_cases hdue : 1 < item.timesScanned ∧ old.timesScanned < item.timesScanned
    · by_cases hagrees : agrees old.value value = true <;>
        simp [changeRule, hdue, hagrees]
    · simp [changeRule, hdue]

end Rule

section
variable {base : RuleBase} {stations : List BaseStationInformation} {arfcn : ℤ}
  {memory : RuleMemory} {item : BaseStationInformation}

/-- The checks return what each active rule makes of the ARFCN with the memories before them. -/
theorem checkAll_outcome {rules : List Rule} (hrules : rules.Nodup) {m : RuleMemory}
    (hm : ∀ rule ∈ rules, rule.IsChange → rule.remembered m arfcn = rule.remembered memory arfcn)
    {r : RuleResults × RuleMemory} (h : checkAll base stations arfcn rules m = some r) :
    r.1 = (rules.filter base.active).map fun rule =>
      (rule.identifier, rule.outcome base stations memory arfcn) := by
  induction rules generalizing m r with
  | nil =>
    rw [checkAll, Option.some_inj] at h
    rw [← h]
    rfl
  | cons rule rest ih =>
    obtain ⟨hrule, hrest⟩ := List.nodup_cons.1 hrules
    rcases checkAll_cons_cases h with ⟨hactive, checked, r', hchecked, hr', rfl⟩ | ⟨hactive, h⟩
    · have hhead : rule.outcome base stations memory arfcn = checked.1 := by
        rw [← Rule.outcome_congr (hm rule List.mem_cons_self), Rule.outcome, hchecked]
        rfl
      have hkept : ∀ other ∈ rest, other.IsChange →
          other.remembered checked.2 arfcn = other.remembered memory arfcn := by
        intro other hother hchange
        have hne : rule ≠ other := fun heq => hrule (heq ▸ hother)
        rw [Rule.check_of_ne hchange hne hchecked]
        exact hm other (List.mem_cons_of_mem _ hother) hchange
      rw [List.filter_cons_of_pos hactive, List.map_cons, hhead, ih hrest hkept hr']
    · rw [List.filter_cons_of_neg hactive]
      exact ih hrest (fun other hother => hm other (List.mem_cons_of_mem _ hother)) h

theorem reportAt_eq (hitem : recordOf arfcn stations = some item)
    (hthreshold : base.settings.neighboursThreshold < 0) :
    reportAt base stations memory arfcn =
      resultsOf base.active fun rule => rule.outcome base stations memory arfcn := by
  obtain ⟨r, hr⟩ := Option.isSome_iff_exists.1
    (checkAll_isSome hitem hthreshold controllerRules memory)
  rw [reportAt, checkedAt, hr]
  exact checkAll_outcome nodup_controllerRules (fun _ _ _ => rfl) hr

theorem resultsOf_inj {active : Rule → Bool} {result result' : Rule → RuleResult} :
    resultsOf active result = resultsOf active result' ↔
      ∀ rule, active rule = true → result rule = result' rule := by
  rw [resultsOf, resultsOf, List.map_inj_left]
  constructor
  · intro h rule hactive
    have hpair := h rule (List.mem_filter.2 ⟨mem_controllerRules rule, hactive⟩)
    exact (Prod.mk.inj hpair).2
  · intro h rule hmem
    rw [h rule (List.mem_filter.1 hmem).2]

/-- A report shows which rules were active. -/
theorem active_of_resultsOf {active active' : Rule → Bool} {result result' : Rule → RuleResult}
    (h : resultsOf active result = resultsOf active' result') : active = active' := by
  have hnames := congrArg (List.map Prod.fst) h
  rw [resultsOf, resultsOf, List.map_map, List.map_map] at hnames
  have hfilter : controllerRules.filter active = controllerRules.filter active' :=
    List.map_injective_iff.2 Rule.identifier_injective hnames
  funext rule
  have hmem : rule ∈ controllerRules.filter active ↔ rule ∈ controllerRules.filter active' := by
    rw [hfilter]
  rw [List.mem_filter, List.mem_filter, and_iff_right (mem_controllerRules rule),
    and_iff_right (mem_controllerRules rule)] at hmem
  exact Bool.eq_iff_iff.2 hmem

end

/-! ### The fields that are read -/

def BaseStationInformation.core (s : BaseStationInformation) : BaseStationInformation where
  country := s.country
  provider := s.provider
  arfcn := s.arfcn
  rxlev := s.rxlev
  timesScanned := s.timesScanned
  neighbours := s.neighbours
  lac := s.lac
  cell := s.cell

section
open BaseStationInformation (core)
variable {base : RuleBase} {settings : RuleSettings} {stations : List BaseStationInformation}
  {arfcn : ℤ}

theorem recordOf_core : recordOf arfcn (stations.map core) = (recordOf arfcn stations).map core :=
  recordOf_map (f := core) (fun _ => rfl) arfcn stations

theorem map_recordOf_core {γ : Type} {f : BaseStationInformation → γ}
    (hf : ∀ s, f (core s) = f s) :
    (recordOf arfcn (stations.map core)).map f = (recordOf arfcn stations).map f := by
  rw [recordOf_core, Option.map_map]
  congr 1
  exact funext hf

theorem extractNeighbours_core :
    extractNeighbours arfcn (stations.map core) = extractNeighbours arfcn stations :=
  map_recordOf_core fun _ => rfl

theorem extractProvider_core :
    extractProvider arfcn (stations.map core) = extractProvider arfcn stations :=
  map_recordOf_core fun _ => rfl

theorem exists_core {P : BaseStationInformation → Prop} (hP : ∀ s, P (core s) ↔ P s) :
    (∃ s ∈ stations.map core, P s) ↔ ∃ s ∈ stations, P s := by
  simp only [List.mem_map, exists_exists_and_eq_and, hP]

theorem lastValue_core {value : BaseStationInformation → ℤ}
    (hvalue : ∀ s, value (core s) = value s) :
    lastValue arfcn (stations.map core) value = lastValue arfcn stations value := by
  rw [lastValue, List.foldl_map, lastValue]
  congr 1
  funext last s
  rw [hvalue]
  rfl

theorem map_filter_core {γ : Type} {p : BaseStationInformation → Bool}
    {f : BaseStationInformation → γ} (hp : ∀ s, p (core s) = p s) (hf : ∀ s, f (core s) = f s) :
    ((stations.map core).filter p).map f = (stations.filter p).map f := by
  rw [List.filter_map, List.map_map, show p ∘ core = p from funext hp,
    show f ∘ core = f from funext hf]

theorem lacMedianRule_core :
    lacMedianRule settings arfcn (stations.map core) = lacMedianRule settings arfcn stations := by
  have hlist : lacMedianList arfcn (stations.map core) = lacMedianList arfcn stations := by
    rw [lacMedianList, lacMedianList, extractProvider_core]
    exact map_filter_core (fun _ => rfl) fun _ => rfl
  rw [lacMedianRule, lacMedianRule, hlist, lastValue_core fun _ => rfl]

theorem neighbourLoop_core (own : List ℤ) (l : List BaseStationInformation) (indirect : Bool) :
    neighbourLoop arfcn own (l.map core) indirect = neighbourLoop arfcn own l indirect := by
  induction l generalizing indirect with
  | nil => rfl
  | cons item l ih =>
    rw [List.map_cons, neighbourLoop, neighbourLoop, ih]
    rfl

theorem neighbourhoodStructureRule_core :
    neighbourhoodStructureRule arfcn (stations.map core) =
      neighbourhoodStructureRule arfcn stations := by
  have hedges : ∀ provider, incomingEdges arfcn (stations.map core) provider =
      incomingEdges arfcn stations provider := by
    intro provider
    rw [incomingEdges, incomingEdges, List.flatMap_def, List.flatMap_def,
      map_filter_core (fun _ => rfl) fun _ => rfl]
  rw [neighbourhoodStructureRule, neighbourhoodStructureRule, extractNeighbours_core,
    extractProvider_core]
  simp only [neighbourLoop_core, hedges]

theorem pureNeighbourhoodRule_core :
    pureNeighbourhoodRule arfcn (stations.map core) = pureNeighbourhoodRule arfcn stations := by
  rw [pureNeighbourhoodRule, pureNeighbourhoodRule, extractNeighbours_core, extractProvider_core]
  simp only [List.map_eq_nil_iff]
  congr 1
  funext neighbours
  exact if_congr (exists_core fun _ => Iff.rfl) rfl rfl

theorem discoveredNeighboursRule_core :
    discoveredNeighboursRule settings arfcn (stations.map core) =
      discoveredNeighboursRule settings arfcn stations := by
  have hfound : ∀ neighbours : List ℤ,
      ((stations.map core).filter fun item => item.arfcn ∈ neighbours).length =
        (stations.filter fun item => item.arfcn ∈ neighbours).length := by
    intro neighbours
    rw [List.filter_map, List.length_map]
    rfl
  rw [discoveredNeighboursRule, discoveredNeighboursRule, extractNeighbours_core]
  simp only [List.map_eq_nil_iff, hfound]

/-- All rules but two read the core of the records only. -/
theorem Rule.check_core {rule : Rule} (hpch : rule ≠ .pch) (hdatabase : rule ≠ .cellIDDatabase)
    (memory : RuleMemory) :
    rule.check base arfcn (stations.map core) memory = rule.check base arfcn stations memory := by
  cases rule with
  | provider | countryMapping | arfcnMapping | lacMapping =>
    exact congrArg (fun r => some (r, memory)) (if_congr (exists_core fun _ => Iff.rfl) rfl rfl)
  | uniqueCellID =>
    rw [check, check, uniqueCellIDRule, uniqueCellIDRule, lastValue_core fun _ => rfl]
    exact congrArg (fun r => some (r, memory)) (if_congr (exists_core fun _ => Iff.rfl) rfl rfl)
  | lacMedian => rw [check, check, lacMedianRule_core]
  | neighbourhoodStructure => rw [check, check, neighbourhoodStructureRule_core]
  | pureNeighbourhood => rw [check, check, pureNeighbourhoodRule_core]
  | discoveredNeighbours => rw [check, check, discoveredNeighboursRule_core]
  | cellIDDatabase => exact absurd rfl hdatabase
  | locationAreaDatabase =>
    rw [check, check]
    cases base.database with
    | none => rfl
    | some cache =>
      exact congrArg (Option.map fun result => (result, memory))
        (map_recordOf_core fun _ => rfl)
  | lacChange => exact map_recordOf_core fun _ => rfl
  | rxChange => exact map_recordOf_core fun _ => rfl
  | pch => exact absurd rfl hpch

end

def CellIDDBStatus.verdict : CellIDDBStatus → RuleResult
  | .notLookedUp => .ignore
  | .confirmed => .ok
  | _ => .critical

structure PchFields where
  scanDone : Bool
  immAssNonHop : ℕ
  immAssHop : ℕ
  pagings : ℕ

def BaseStationInformation.pchFields (s : BaseStationInformation) : PchFields :=
  ⟨s.pchScanDone, s.immAssNonHop, s.immAssHop, s.pagings⟩

def PchFields.Accepted (settings : RuleSettings) (fields : PchFields) : Prop :=
  fields.immAssNonHop = 0 ∧ settings.pagingsPer10sThreshold ≤ fields.pagings ∧
    settings.assignmentLimit ≤ fields.immAssHop

instance (settings : RuleSettings) (fields : PchFields) :
    Decidable (fields.Accepted settings) :=
  inferInstanceAs (Decidable (_ ∧ _ ∧ _))

def PchFields.verdict (settings : RuleSettings) (fields : PchFields) : RuleResult :=
  if fields.scanDone = false then .ignore
  else if fields.Accepted settings then .ok else .critical

section
open BaseStationInformation (core pchFields)
variable {rule : Rule} {base base' : RuleBase} {stations stations' : List BaseStationInformation}
  {arfcn : ℤ}

theorem cellIDDatabaseRule_eq : cellIDDatabaseRule arfcn stations =
    ((recordOf arfcn stations).map (·.dbStatus)).map CellIDDBStatus.verdict := by
  rw [Option.map_map]
  rfl

theorem pchRule_eq_verdict (settings : RuleSettings) : pchRule settings arfcn stations =
    ((recordOf arfcn stations).map pchFields).map (PchFields.verdict settings) := by
  rw [pchRule, Option.map_map]
  congr 1
  funext item
  simp only [Function.comp_apply, pchFields, PchFields.verdict, PchFields.Accepted]
  by_cases hhop : 0 < item.immAssNonHop
  · have hne : item.immAssNonHop ≠ 0 := by omega
    simp [hhop, hne]
  · have hzero : item.immAssNonHop = 0 := by omega
    simp [hzero]

/-- A rule returns the same where what it reads is the same. -/
theorem Rule.outcome_frame (hsettings : base'.settings = base.settings)
    (hcore : stations'.map core = stations.map core)
    (hcache : rule = .locationAreaDatabase → base'.database = base.database)
    (hstatus : rule = .cellIDDatabase →
      (recordOf arfcn stations').map (·.dbStatus) = (recordOf arfcn stations).map (·.dbStatus))
    (hscan : rule = .pch →
      (recordOf arfcn stations').map pchFields = (recordOf arfcn stations).map pchFields)
    (memory : RuleMemory) :
    rule.outcome base' stations' memory arfcn = rule.outcome base stations memory arfcn := by
  by_cases hpch : rule = .pch
  · subst hpch
    rw [outcome, check, outcome, check, hsettings, pchRule_eq_verdict, pchRule_eq_verdict,
      hscan rfl]
  by_cases hdatabase : rule = .cellIDDatabase
  · subst hdatabase
    rw [outcome, check, outcome, check, cellIDDatabaseRule_eq, cellIDDatabaseRule_eq, hstatus rfl]
  have hbase : rule.check base' arfcn (stations.map core) memory =
      rule.check base arfcn (stations.map core) memory := by
    cases rule with
    | locationAreaDatabase => rw [check, check, hsettings, hcache rfl]
    | _ => simp only [check, hsettings]
  rw [outcome, ← check_core hpch hdatabase, hcore, hbase, check_core hpch hdatabase, outcome]

end

end ImsiCatcher

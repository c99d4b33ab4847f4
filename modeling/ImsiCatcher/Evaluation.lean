import ImsiCatcher.Rules

/-!
# Evaluating the stations

`BaseStationInformationList.evaluate`, the evaluators it hands the rule results to, the
filters of the window, and `trigger_evaluation`. The order in which a dictionary lists its
entries is not known, so it is a parameter. No rule reads an evaluation, so the checks see
the list as it was before.
-/

namespace ImsiCatcher

abbrev RuleResults := List (Text × RuleResult)

structure DictOrder where
  items : RuleResults → RuleResults
  perm : ∀ results, (items results).Perm results

def DictOrder.inserted : DictOrder := ⟨id, fun _ => List.Perm.refl _⟩

inductive EvaluationReport where
  | decisionFoundedOn (rule : Text)
  | counts (criticals warnings oks : ℕ)
  | reason (text : Text)
  deriving DecidableEq

/-- The loop of the conservative evaluator: the result so far and the rule that decided. -/
def conservativeLoop : RuleResults → RuleResult × Text → RuleResult × Text
  | [], final => final
  | (key, .critical) :: _, _ => (.critical, key)
  | (key, .warning) :: rest, _ => conservativeLoop rest (.warning, key)
  | (_, .ok) :: rest, final => conservativeLoop rest final
  | (_, .ignore) :: rest, final => conservativeLoop rest final

def conservativeEvaluate (order : DictOrder) (results : RuleResults) :
    RuleResult × EvaluationReport :=
  let final := conservativeLoop (order.items results) (.ok, "None".toList)
  (final.1, .decisionFoundedOn final.2)

def convertToGroupResultList (group : List Text) (results : RuleResults) : List RuleResult :=
  group.filterMap fun rule => results.lookup rule

def evaluateGroupResults (results : List RuleResult) : RuleResult :=
  let oks := results.count .ok
  let warnings := results.count .warning
  let criticals := results.count .critical
  if oks ≤ criticals ∧ warnings ≤ criticals ∧ criticals ≠ 0 then .critical
  else if oks ≤ warnings ∧ criticals ≤ warnings ∧ warnings ≠ 0 then .warning
  else if criticals ≤ oks ∧ warnings ≤ oks ∧ oks ≠ 0 then .ok
  else .ignore

def groupEvaluate (groups : List (List Text)) (results : RuleResults) :
    RuleResult × EvaluationReport :=
  let groupResults := groups.map fun group =>
    evaluateGroupResults (convertToGroupResultList group results)
  let criticals := groupResults.count .critical
  let warnings := groupResults.count .warning
  let oks := groupResults.count .ok
  if 0 < criticals then (.critical, .counts criticals warnings oks)
  else if 0 < warnings then (.warning, .counts criticals warnings oks)
  else if 0 < oks then (.ok, .counts criticals warnings oks)
  else (.critical,
    .reason "No evaluation possible, all active rules yield IGNORE.".toList)

inductive Evaluator where
  | conservative
  | group
  deriving DecidableEq

namespace Evaluator

def identifier : Evaluator → Text
  | conservative => "Conservative Evaluator".toList
  | group => "Group Evaluator".toList

def evaluate (evaluator : Evaluator) (settings : RuleSettings) (order : DictOrder)
    (results : RuleResults) : RuleResult × EvaluationReport :=
  match evaluator with
  | conservative => conservativeEvaluate order results
  | group => groupEvaluate settings.ruleGroups results

end Evaluator

structure Assessed where
  station : BaseStationInformation
  rulesReport : RuleResults
  evaluationReport : EvaluationReport
  evaluationBy : Text

def controllerRules : List Rule :=
  [.provider, .countryMapping, .arfcnMapping, .lacMapping, .uniqueCellID, .lacMedian,
    .neighbourhoodStructure, .pureNeighbourhood, .discoveredNeighbours, .cellIDDatabase,
    .locationAreaDatabase, .lacChange, .rxChange, .pch]

section
variable (base : RuleBase) (evaluator : Evaluator) (order : DictOrder)
  (stations : List BaseStationInformation)

/-- The checks of one ARFCN; the identifiers are distinct, so that each result is a new
entry of the dictionary. -/
def checkAll (arfcn : ℤ) : List Rule → RuleMemory → Option (RuleResults × RuleMemory)
  | [], memory => some ([], memory)
  | rule :: rest, memory =>
    if base.active rule then
      (rule.check base arfcn stations memory).bind fun checked =>
        (checkAll arfcn rest checked.2).map fun r => ((rule.identifier, checked.1) :: r.1, r.2)
    else checkAll arfcn rest memory

def assess (station : BaseStationInformation) (results : RuleResults) : Assessed where
  station := { station with
    evaluation := some (evaluator.evaluate base.settings order results).1 }
  rulesReport := results
  evaluationReport := (evaluator.evaluate base.settings order results).2
  evaluationBy := evaluator.identifier

def evaluateLoop : List BaseStationInformation → RuleMemory → Option (List Assessed × RuleMemory)
  | [], memory => some ([], memory)
  | station :: rest, memory =>
    (checkAll base stations station.arfcn controllerRules memory).bind fun checked =>
      (evaluateLoop rest checked.2).map fun r =>
        (assess base evaluator order station checked.1 :: r.1, r.2)

/-- `BaseStationInformationList.evaluate`; nothing where a check raises an exception. -/
def evaluate (memory : RuleMemory) : Option (List Assessed × RuleMemory) :=
  evaluateLoop base evaluator order stations stations memory

end

section
variable {base : RuleBase} {evaluator : Evaluator} {order : DictOrder}
  {stations : List BaseStationInformation}

/-- The first rule is active and returns a result, and the others are asked after it, or it is
not asked. -/
theorem checkAll_cons_cases {arfcn : ℤ} {rule : Rule} {rest : List Rule} {memory : RuleMemory}
    {r : RuleResults × RuleMemory}
    (h : checkAll base stations arfcn (rule :: rest) memory = some r) :
    (base.active rule = true ∧ ∃ checked r',
      rule.check base arfcn stations memory = some checked ∧
      checkAll base stations arfcn rest checked.2 = some r' ∧
      r = ((rule.identifier, checked.1) :: r'.1, r'.2)) ∨
    ¬base.active rule = true ∧ checkAll base stations arfcn rest memory = some r := by
  rw [checkAll] at h
  by_cases hactive : base.active rule = true
  · rw [if_pos hactive] at h
    obtain ⟨checked, hchecked, hrest⟩ := Option.bind_eq_some_iff.1 h
    obtain ⟨r', hr', rfl⟩ := Option.map_eq_some_iff.1 hrest
    exact Or.inl ⟨hactive, checked, r', hchecked, hr', rfl⟩
  · rw [if_neg hactive] at h
    exact Or.inr ⟨hactive, h⟩

/-- An entry of the dictionary is what an active rule returned. -/
theorem mem_checkAll {arfcn : ℤ} {rules : List Rule} {memory : RuleMemory}
    {r : RuleResults × RuleMemory} (h : checkAll base stations arfcn rules memory = some r)
    {entry : Text × RuleResult} (hentry : entry ∈ r.1) :
    ∃ rule ∈ rules, base.active rule = true ∧ entry.1 = rule.identifier ∧
      ∃ before after, rule.check base arfcn stations before = some (entry.2, after) := by
  induction rules generalizing memory r with
  | nil =>
    rw [checkAll, Option.some_inj] at h
    rw [← h] at hentry
    exact absurd hentry List.not_mem_nil
  | cons rule rest ih =>
    rcases checkAll_cons_cases h with ⟨hactive, checked, r', hchecked, hr', rfl⟩ | ⟨-, h⟩
    · rcases List.mem_cons.1 hentry with rfl | hentry
      · exact ⟨rule, List.mem_cons_self, hactive, rfl, memory, checked.2, hchecked⟩
      · obtain ⟨rule', hmem, hfound⟩ := ih hr' hentry
        exact ⟨rule', List.mem_cons_of_mem _ hmem, hfound⟩
    · obtain ⟨rule', hmem, hfound⟩ := ih h hentry
      exact ⟨rule', List.mem_cons_of_mem _ hmem, hfound⟩

theorem mem_evaluateLoop {rest : List BaseStationInformation} {memory : RuleMemory}
    {r : List Assessed × RuleMemory}
    (h : evaluateLoop base evaluator order stations rest memory = some r) {item : Assessed}
    (hitem : item ∈ r.1) :
    ∃ station ∈ rest, ∃ before checked,
      checkAll base stations station.arfcn controllerRules before = some checked ∧
      item = assess base evaluator order station checked.1 := by
  induction rest generalizing memory r with
  | nil =>
    rw [evaluateLoop, Option.some_inj] at h
    rw [← h] at hitem
    exact absurd hitem List.not_mem_nil
  | cons station rest ih =>
    obtain ⟨checked, hchecked, hrest⟩ := Option.bind_eq_some_iff.1 h
    obtain ⟨r', hr', rfl⟩ := Option.map_eq_some_iff.1 hrest
    rcases List.mem_cons.1 hitem with rfl | hitem
    · exact ⟨station, List.mem_cons_self, memory, checked, hchecked, rfl⟩
    · obtain ⟨station', hmem, hfound⟩ := ih hr' hitem
      exact ⟨station', List.mem_cons_of_mem _ hmem, hfound⟩

end

structure ARFCNFilter where
  isActive : Bool := false
  low : ℤ := 0
  high : ℤ := 0

structure ProviderFilter where
  isActive : Bool := false
  providers : Text := []

def ARFCNFilter.execute (filter : ARFCNFilter) (stations : List Assessed) : List Assessed :=
  stations.filter fun item => item.station.arfcn ≤ filter.high ∧ filter.low ≤ item.station.arfcn

def ProviderFilter.execute (filter : ProviderFilter) (stations : List Assessed) :
    List Assessed :=
  let providers := (Text.split ',' filter.providers).map Text.strip
  stations.filter fun item => providers.contains item.station.provider

structure Filters where
  arfcnFilter : ARFCNFilter := {}
  providerFilter : ProviderFilter := {}

def Filters.displayed (filters : Filters) (stations : List Assessed) : List Assessed :=
  let stations :=
    if filters.arfcnFilter.isActive then filters.arfcnFilter.execute stations else stations
  if filters.providerFilter.isActive then filters.providerFilter.execute stations else stations

theorem Filters.displayed_subset (filters : Filters) (stations : List Assessed) :
    filters.displayed stations ⊆ stations := by
  rw [displayed]
  have harfcn : (if filters.arfcnFilter.isActive then filters.arfcnFilter.execute stations
      else stations) ⊆ stations := by
    split
    · exact List.filter_subset_self _
    · exact List.Subset.refl _
  split
  · exact List.Subset.trans (List.filter_subset_self _) harfcn
  · exact harfcn

def fillcolor : Option RuleResult → String
  | some .ok => "green"
  | some .warning => "yellow"
  | some .critical => "red"
  | _ => "white"

def dotNode (item : Assessed) : Text :=
  let arfcn := Text.decimalInt item.station.arfcn
  arfcn ++ " [style = filled, fillcolor = ".toList ++
    (fillcolor item.station.evaluation).toList ++ "]; ".toList ++
    item.station.neighbours.flatMap fun neighbour =>
      arfcn ++ " -> ".toList ++ Text.decimalInt neighbour ++ "; ".toList

def getDotCode (displayed : List Assessed) : Text :=
  "digraph bsnetwork \x7b ".toList ++ displayed.flatMap dotNode ++ "\x7d".toList

/-- The loop of `trigger_redraw`: the result so far, and whether a warning was met. -/
def imageLoop : List (Option RuleResult) → RuleResult → Bool → RuleResult
  | [], result, _ => result
  | evaluation :: rest, result, atLeastWarning =>
    if evaluation = some .ok ∧ atLeastWarning = false then imageLoop rest .ok atLeastWarning
    else if evaluation = some .warning then imageLoop rest .warning true
    else if evaluation = some .critical then .critical
    else imageLoop rest result atLeastWarning

/-- What `trigger_redraw` hands to the window: a graph, unless it is empty, and the image. -/
structure Redraw where
  dot : Option Text
  image : RuleResult

def triggerRedraw (displayed : List Assessed) : Redraw where
  dot := if getDotCode displayed = "digraph bsnetwork \x7b \x7d".toList then none
    else some (getDotCode displayed)
  image := imageLoop (displayed.map (·.station.evaluation)) .ignore false

structure Refresh where
  stations : List Assessed
  memory : RuleMemory
  displayed : List Assessed
  redraw : Redraw

def triggerEvaluation (base : RuleBase) (evaluator : Evaluator) (order : DictOrder)
    (filters : Filters) (stations : List BaseStationInformation) (memory : RuleMemory) :
    Option Refresh :=
  (evaluate base evaluator order stations memory).map fun r =>
    { stations := r.1
      memory := r.2
      displayed := filters.displayed r.1
      redraw := triggerRedraw (filters.displayed r.1) }

end ImsiCatcher

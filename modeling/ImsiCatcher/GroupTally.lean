import ImsiCatcher.Evaluation

/-!
# What the groups count

The group evaluator looks the identifiers of each group up in the dictionary of results. A
result whose identifier is in no group is counted nowhere. The rules, the list of the
controller and the groups are tied by the identifiers alone: the rule that is called
`Discovered Neighbours` is listed as `Fully Discovered Neighbourhoods`.
-/

namespace ImsiCatcher

/-- The dictionary that `evaluate` builds where each active rule returns what it is assigned. -/
def resultsOf (active : Rule → Bool) (result : Rule → RuleResult) : RuleResults :=
  (controllerRules.filter active).map fun rule => (rule.identifier, result rule)

/-- The number of results other than `Ignore`. -/
def findings (results : List RuleResult) : ℕ := results.countP (· ≠ .ignore)

/-- Each finding is counted in exactly one group, and the groups count them all. -/
structure DropsNoFinding (groups : List (List Text)) (results : RuleResults) : Prop where
  counted : ∀ entry ∈ results, entry.2 ≠ .ignore → groups.countP (·.contains entry.1) = 1
  total : (groups.map fun group => findings (convertToGroupResultList group results)).sum =
    findings (results.map (·.2))

/-- What a check of all rules returns is an assignment of results to the active ones. -/
theorem checkAll_resultsOf {base : RuleBase} {stations : List BaseStationInformation} {arfcn : ℤ}
    {rules : List Rule} {memory : RuleMemory} {r : RuleResults × RuleMemory}
    (hrules : rules.Nodup) (h : checkAll base stations arfcn rules memory = some r) :
    ∃ result : Rule → RuleResult,
      r.1 = (rules.filter base.active).map fun rule => (rule.identifier, result rule) := by
  induction rules generalizing memory r with
  | nil =>
    rw [checkAll, Option.some_inj] at h
    exact ⟨fun _ => .ignore, by rw [← h]; rfl⟩
  | cons rule rest ih =>
    obtain ⟨hrule, hrest⟩ := List.nodup_cons.1 hrules
    rcases checkAll_cons_cases h with ⟨hactive, checked, r', -, hr', rfl⟩ | ⟨hactive, h⟩
    · obtain ⟨result, hresult⟩ := ih hrest hr'
      refine ⟨Function.update result rule checked.1, ?_⟩
      rw [List.filter_cons_of_pos hactive, List.map_cons, Function.update_self]
      dsimp only
      rw [hresult]
      congr 1
      refine List.map_congr_left fun other hother => ?_
      have hne : other ≠ rule := by
        rintro rfl
        exact hrule (List.mem_of_mem_filter hother)
      rw [Function.update_of_ne hne]
    · obtain ⟨result, hresult⟩ := ih hrest h
      exact ⟨result, by rw [List.filter_cons_of_neg hactive, hresult]⟩

theorem nodup_controllerRules : controllerRules.Nodup := by decide

theorem mem_controllerRules (rule : Rule) : rule ∈ controllerRules := by
  cases rule <;> decide

/-- The dictionaries of an evaluation are assignments of results to the active rules. -/
theorem evaluate_resultsOf {base : RuleBase} {evaluator : Evaluator} {order : DictOrder}
    {stations : List BaseStationInformation} {memory : RuleMemory}
    {r : List Assessed × RuleMemory} (h : evaluate base evaluator order stations memory = some r)
    {item : Assessed} (hitem : item ∈ r.1) :
    ∃ result, item.rulesReport = resultsOf base.active result := by
  obtain ⟨_, _, _, checked, hchecked, rfl⟩ := mem_evaluateLoop h hitem
  exact checkAll_resultsOf nodup_controllerRules hchecked

theorem find?_identifier (rules : List Rule) (rule : Rule) :
    (rules.find? fun other => other.identifier = rule.identifier) =
      if rule ∈ rules then some rule else none := by
  induction rules with
  | nil => rfl
  | cons other rest ih =>
    by_cases hother : other = rule
    · subst hother
      simp
    · have hname : other.identifier ≠ rule.identifier :=
        fun h => hother (Rule.identifier_injective h)
      have hne : rule ≠ other := fun h => hother h.symm
      simp [hname, hne, ih]

def ruleNamed (name : Text) : Option Rule :=
  controllerRules.find? fun rule => rule.identifier = name

theorem ruleNamed_eq_some {name : Text} {rule : Rule} (h : ruleNamed name = some rule) :
    rule.identifier = name := by
  have hfound := List.find?_some h
  simpa using hfound

section
variable (active : Rule → Bool) (result : Rule → RuleResult)

def finds (rule : Rule) : Bool := active rule && result rule ≠ .ignore

theorem lookup_map_identifier (rules : List Rule) (name : Text) :
    (rules.map fun rule => (rule.identifier, result rule)).lookup name =
      (rules.find? fun rule => rule.identifier = name).map result := by
  induction rules with
  | nil => rfl
  | cons rule rest ih =>
    by_cases hname : rule.identifier = name
    · simp [hname]
    · have hbeq : (name == rule.identifier) = false := by simpa using fun h => hname h.symm
      simp [List.lookup_cons, hbeq, hname, ih]

theorem lookup_resultsOf (rule : Rule) :
    (resultsOf active result).lookup rule.identifier =
      if active rule then some (result rule) else none := by
  rw [resultsOf, lookup_map_identifier, find?_identifier]
  simp only [List.mem_filter, mem_controllerRules, true_and]
  split <;> rfl

theorem lookup_resultsOf_of_unnamed {name : Text} (h : ruleNamed name = none) :
    (resultsOf active result).lookup name = none := by
  rw [resultsOf, lookup_map_identifier, Option.map_eq_none_iff, List.find?_eq_none]
  intro rule hrule
  exact List.find?_eq_none.1 h rule (List.mem_of_mem_filter hrule)

/-- A group looks up the rules that its identifiers name. -/
theorem convertToGroupResultList_resultsOf (group : List Text) :
    convertToGroupResultList group (resultsOf active result) =
      ((group.filterMap ruleNamed).filter active).map result := by
  induction group with
  | nil => rfl
  | cons name rest ih =>
    rw [convertToGroupResultList] at ih ⊢
    rw [List.filterMap_cons, ih]
    cases hname : ruleNamed name with
    | none =>
      rw [lookup_resultsOf_of_unnamed active result hname, List.filterMap_cons_none hname]
    | some rule =>
      obtain rfl := ruleNamed_eq_some hname
      rw [lookup_resultsOf, List.filterMap_cons_some hname]
      by_cases hactive : active rule = true
      · rw [if_pos hactive, List.filter_cons_of_pos hactive, List.map_cons]
      · rw [if_neg hactive, List.filter_cons_of_neg hactive]

theorem findings_map_filter (rules : List Rule) :
    findings ((rules.filter active).map result) = rules.countP (finds active result) := by
  rw [findings, List.countP_map, List.countP_filter]
  refine List.countP_congr fun rule _ => ?_
  simp [finds, and_comm]

/-- The groups together count the findings of the rules that their identifiers name. -/
theorem sum_findings (groups : List (List Text)) :
    (groups.map fun group =>
      findings (convertToGroupResultList group (resultsOf active result))).sum =
      (groups.flatten.filterMap ruleNamed).countP (finds active result) := by
  induction groups with
  | nil => rfl
  | cons group rest ih =>
    rw [List.map_cons, List.sum_cons, ih, convertToGroupResultList_resultsOf,
      findings_map_filter, List.flatten_cons, List.filterMap_append, List.countP_append]

theorem findings_resultsOf :
    findings ((resultsOf active result).map (·.2)) =
      controllerRules.countP (finds active result) := by
  rw [← findings_map_filter, resultsOf, List.map_map]
  rfl

end

/-- The groups of the settings name each rule of the controller once, but for one. -/
theorem perm_ruleGroups :
    (Rule.discoveredNeighbours :: ({} : RuleSettings).ruleGroups.flatten.filterMap ruleNamed).Perm
      controllerRules := by decide +kernel

theorem countP_ruleGroups {rule : Rule} (h : rule ≠ .discoveredNeighbours) :
    ({} : RuleSettings).ruleGroups.countP (·.contains rule.identifier) = 1 := by
  cases rule
  case discoveredNeighbours => exact absurd rfl h
  all_goals decide +kernel

theorem countP_finds (active : Rule → Bool) (result : Rule → RuleResult) :
    controllerRules.countP (finds active result) =
      (({} : RuleSettings).ruleGroups.flatten.filterMap ruleNamed).countP (finds active result) +
        if finds active result .discoveredNeighbours then 1 else 0 := by
  rw [← perm_ruleGroups.countP_eq (finds active result), List.countP_cons]

theorem dropsNoFinding_of_ignore {active : Rule → Bool} {result : Rule → RuleResult}
    (h : active .discoveredNeighbours = true → result .discoveredNeighbours = .ignore) :
    DropsNoFinding ({} : RuleSettings).ruleGroups (resultsOf active result) := by
  constructor
  · intro entry hentry hfound
    obtain ⟨rule, hrule, rfl⟩ := List.mem_map.1 hentry
    refine countP_ruleGroups ?_
    rintro rfl
    exact hfound (h (List.mem_filter.1 hrule).2)
  · have hquiet : ¬finds active result .discoveredNeighbours = true := by
      intro hfinds
      simp only [finds, Bool.and_eq_true, decide_eq_true_eq] at hfinds
      exact hfinds.2 (h hfinds.1)
    rw [sum_findings, findings_resultsOf, countP_finds, if_neg hquiet, Nat.add_zero]

/-- The group evaluator drops no finding just when the rule of the discovered neighbours, if it
is active, has none. -/
theorem groups_drop_no_finding_iff (active : Rule → Bool) (result : Rule → RuleResult) :
    DropsNoFinding ({} : RuleSettings).ruleGroups (resultsOf active result) ↔
      (active .discoveredNeighbours = true → result .discoveredNeighbours = .ignore) := by
  refine ⟨fun h hactive => ?_, dropsNoFinding_of_ignore⟩
  have htotal := h.total
  rw [sum_findings, findings_resultsOf, countP_finds] at htotal
  by_contra hfound
  have hfinds : finds active result .discoveredNeighbours = true := by
    simp [finds, hactive, hfound]
  rw [if_pos hfinds] at htotal
  omega

theorem discoveredNeighboursRule_of_neg {settings : RuleSettings} {arfcn : ℤ}
    {stations : List BaseStationInformation} {result : RuleResult}
    (hthreshold : settings.neighboursThreshold < 0)
    (h : discoveredNeighboursRule settings arfcn stations = some result) : result = .ignore := by
  rw [discoveredNeighboursRule] at h
  have hlow : ¬1 < settings.neighboursThreshold := by linarith
  cases hneighbours : extractNeighbours arfcn stations with
  | none =>
    rw [hneighbours] at h
    simp only [hthreshold, hlow, and_true, and_false, if_false] at h
    split at h
    · exact (Option.some_inj.1 h).symm
    · exact absurd h (by simp)
  | some neighbours =>
    rw [hneighbours] at h
    dsimp only at h
    rw [if_pos hthreshold] at h
    exact (Option.some_inj.1 h).symm

/-- While the threshold for neighbours is negative, an evaluation has all its findings counted. -/
theorem evaluate_drops_no_finding {base : RuleBase} {evaluator : Evaluator} {order : DictOrder}
    {stations : List BaseStationInformation} {memory : RuleMemory}
    {r : List Assessed × RuleMemory} (hthreshold : base.settings.neighboursThreshold < 0)
    (h : evaluate base evaluator order stations memory = some r) {item : Assessed}
    (hitem : item ∈ r.1) : DropsNoFinding ({} : RuleSettings).ruleGroups item.rulesReport := by
  obtain ⟨result, hresult⟩ := evaluate_resultsOf h hitem
  rw [hresult]
  refine dropsNoFinding_of_ignore fun hactive => ?_
  obtain ⟨station, _, _, checked, hchecked, rfl⟩ := mem_evaluateLoop h hitem
  have hmem : (Rule.discoveredNeighbours.identifier, result .discoveredNeighbours) ∈
      checked.1 := by
    change _ ∈ (assess base evaluator order station checked.1).rulesReport
    rw [hresult]
    exact List.mem_map_of_mem (List.mem_filter.2 ⟨mem_controllerRules _, hactive⟩)
  obtain ⟨rule, _, _, hname, before, after, hcheck⟩ := mem_checkAll hchecked hmem
  obtain rfl : Rule.discoveredNeighbours = rule := Rule.identifier_injective hname
  obtain ⟨found, hfound, heq⟩ := Option.map_eq_some_iff.1 hcheck
  obtain rfl : found = result .discoveredNeighbours := congrArg Prod.fst heq
  exact discoveredNeighboursRule_of_neg hthreshold hfound

/-- With the threshold set to two neighbours, a station that has fewer is judged critical by a
rule that no group lists. -/
theorem groups_drop_a_finding : ¬ ∀ (base : RuleBase) (evaluator : Evaluator) (order : DictOrder)
    (stations : List BaseStationInformation) (memory : RuleMemory)
    (r : List Assessed × RuleMemory), base.settings.ruleGroups = ({} : RuleSettings).ruleGroups →
    evaluate base evaluator order stations memory = some r →
    ∀ item ∈ r.1, DropsNoFinding base.settings.ruleGroups item.rulesReport := by
  intro h
  let base : RuleBase :=
    { settings := { neighboursThreshold := 2 }, active := fun rule => rule = .discoveredNeighbours }
  have hreport : (evaluate base .group .inserted [{ arfcn := 7 }] {}).map
      (fun r => r.1.map (·.rulesReport)) =
      some [[("Discovered Neighbours".toList, .critical)]] := by decide +kernel
  obtain ⟨r, hr, hitems⟩ := Option.map_eq_some_iff.1 hreport
  obtain ⟨item, rest, hitem, hone, -⟩ := List.map_eq_cons_iff.1 hitems
  have htotal := (h base .group .inserted _ {} r rfl hr item (by simp [hitem])).total
  rw [hone] at htotal
  exact absurd htotal (by decide +kernel)

end ImsiCatcher

import ImsiCatcher.Rearrangement
import ImsiCatcher.RuleMemories
import ImsiCatcher.Verdicts

/-!
# Verdicts and the order of discovery

The stations of a list with distinct ARFCNs, and the neighbours of each of them, are put in
another order. Each rule reads the list in its own way, and each one returns the same.
-/

namespace ImsiCatcher

def SameStation (s s' : BaseStationInformation) : Prop :=
  ∃ neighbours, s.neighbours.Perm neighbours ∧ s' = { s with neighbours := neighbours }

namespace SameStation

theorem arfcn {s s' : BaseStationInformation} (h : SameStation s s') : s.arfcn = s'.arfcn := by
  obtain ⟨neighbours, -, rfl⟩ := h
  rfl

theorem provider {s s' : BaseStationInformation} (h : SameStation s s') :
    s.provider = s'.provider := by
  obtain ⟨neighbours, -, rfl⟩ := h
  rfl

theorem nil_iff {s s' : BaseStationInformation} (h : SameStation s s') :
    s.neighbours = [] ↔ s'.neighbours = [] := by
  obtain ⟨neighbours, hperm, rfl⟩ := h
  rw [← List.length_eq_zero_iff, hperm.length_eq, List.length_eq_zero_iff]

theorem neighbours {s s' : BaseStationInformation} (h : SameStation s s') (a : ℤ) :
    a ∈ s.neighbours ↔ a ∈ s'.neighbours := by
  obtain ⟨neighbours, hperm, rfl⟩ := h
  exact hperm.mem_iff

end SameStation

section Rules
variable {stations stations' : List BaseStationInformation} {arfcn : ℤ} {settings : RuleSettings}

/-- A condition that does not look at the neighbours is met in both lists or in none. -/
theorem exists_rearranged (h : Rearranged SameStation stations stations')
    {P : BaseStationInformation → Prop}
    (hP : ∀ s neighbours, P { s with neighbours := neighbours } ↔ P s) :
    (∃ s ∈ stations, P s) ↔ ∃ s ∈ stations', P s := by
  apply h.exists_iff
  rintro s _ ⟨neighbours, -, rfl⟩
  exact (hP s neighbours).symm

theorem recordOf_rearranged (h : Rearranged SameStation stations stations')
    (hnodup : (stations.map (·.arfcn)).Nodup) (arfcn : ℤ) :
    (recordOf arfcn stations = none ∧ recordOf arfcn stations' = none) ∨
    ∃ s s', recordOf arfcn stations = some s ∧ recordOf arfcn stations' = some s' ∧
      SameStation s s' :=
  Keyed.find?_rearranged h (fun _ _ => SameStation.arfcn) hnodup arfcn

theorem map_recordOf_rearranged {γ : Type} (h : Rearranged SameStation stations stations')
    (hnodup : (stations.map (·.arfcn)).Nodup) (arfcn : ℤ) {f : BaseStationInformation → γ}
    (hf : ∀ s neighbours, f { s with neighbours := neighbours } = f s) :
    (recordOf arfcn stations).map f = (recordOf arfcn stations').map f := by
  rcases recordOf_rearranged h hnodup arfcn with ⟨hs, hs'⟩ | ⟨s, _, hs, hs', neighbours, -, rfl⟩
  · rw [hs, hs']
  · rw [hs, hs', Option.map_some, Option.map_some]
    exact congrArg some (hf s neighbours).symm

theorem extractProvider_rearranged (h : Rearranged SameStation stations stations')
    (hnodup : (stations.map (·.arfcn)).Nodup) (arfcn : ℤ) :
    extractProvider arfcn stations = extractProvider arfcn stations' :=
  map_recordOf_rearranged h hnodup arfcn fun _ _ => rfl

theorem lastValue_rearranged (h : Rearranged SameStation stations stations')
    (hnodup : (stations.map (·.arfcn)).Nodup) (arfcn : ℤ) {value : BaseStationInformation → ℤ}
    (hvalue : ∀ s neighbours, value { s with neighbours := neighbours } = value s) :
    lastValue arfcn stations value = lastValue arfcn stations' value := by
  have hnodup' := Keyed.nodup_rearranged h (fun _ _ => SameStation.arfcn) hnodup
  rw [lastValue, lastValue, Keyed.foldl_eq hnodup, Keyed.foldl_eq hnodup']
  exact congrArg (·.getD 0) (map_recordOf_rearranged h hnodup arfcn hvalue)

theorem providerRule_rearranged (h : Rearranged SameStation stations stations') :
    providerRule settings arfcn stations = providerRule settings arfcn stations' :=
  if_congr (exists_rearranged h fun _ _ => Iff.rfl) rfl rfl

theorem countryMappingRule_rearranged (h : Rearranged SameStation stations stations') :
    countryMappingRule settings arfcn stations = countryMappingRule settings arfcn stations' :=
  if_congr (exists_rearranged h fun _ _ => Iff.rfl) rfl rfl

theorem arfcnMappingRule_rearranged (h : Rearranged SameStation stations stations') :
    arfcnMappingRule settings arfcn stations = arfcnMappingRule settings arfcn stations' :=
  if_congr (exists_rearranged h fun _ _ => Iff.rfl) rfl rfl

theorem lacMappingRule_rearranged (h : Rearranged SameStation stations stations') :
    lacMappingRule settings arfcn stations = lacMappingRule settings arfcn stations' :=
  if_congr (exists_rearranged h fun _ _ => Iff.rfl) rfl rfl

theorem uniqueCellIDRule_rearranged (h : Rearranged SameStation stations stations')
    (hnodup : (stations.map (·.arfcn)).Nodup) :
    uniqueCellIDRule arfcn stations = uniqueCellIDRule arfcn stations' := by
  rw [uniqueCellIDRule, lastValue_rearranged h hnodup arfcn fun _ _ => rfl]
  exact if_congr (exists_rearranged h fun _ _ => Iff.rfl) rfl rfl

/-- Sorting takes the order away. -/
theorem lacMedian_perm {lacs lacs' : List ℤ} (h : lacs.Perm lacs') :
    lacMedian lacs = lacMedian lacs' := by
  have hsort : (lacs.insertionSort (· ≤ ·)).Perm (lacs'.insertionSort (· ≤ ·)) :=
    (List.perm_insertionSort _ lacs).trans (h.trans (List.perm_insertionSort _ lacs').symm)
  have heq := hsort.eq_of_pairwise' (List.pairwise_insertionSort (· ≤ ·) lacs)
    (List.pairwise_insertionSort (· ≤ ·) lacs')
  rw [lacMedian, lacMedian, heq, h.length_eq]

theorem lacMedianList_rearranged (h : Rearranged SameStation stations stations')
    (hnodup : (stations.map (·.arfcn)).Nodup) :
    (lacMedianList arfcn stations).Perm (lacMedianList arfcn stations') := by
  rw [lacMedianList, lacMedianList, extractProvider_rearranged h hnodup]
  apply (h.filter ?_).perm_map
  · rintro s _ ⟨neighbours, -, rfl⟩
    rfl
  · rintro s _ ⟨neighbours, -, rfl⟩
    rfl

theorem lacMedianRule_rearranged (h : Rearranged SameStation stations stations')
    (hnodup : (stations.map (·.arfcn)).Nodup) :
    lacMedianRule settings arfcn stations = lacMedianRule settings arfcn stations' := by
  have hperm : (lacMedianList arfcn stations).Perm (lacMedianList arfcn stations') :=
    lacMedianList_rearranged h hnodup
  rw [lacMedianRule, lacMedianRule, hperm.length_eq, lacMedian_perm hperm,
    lastValue_rearranged h hnodup arfcn fun _ _ => rfl]

theorem neighbourLoop_fst (own : List ℤ) (l : List BaseStationInformation) (indirect : Bool) :
    (neighbourLoop arfcn own l indirect).1 = true ↔ ∃ item ∈ l, item.arfcn ∈ own := by
  induction l generalizing indirect with
  | nil => simp [neighbourLoop]
  | cons item l ih =>
    rw [neighbourLoop]
    by_cases hown : item.arfcn ∈ own
    · simp [hown]
    · rw [if_neg hown, ih]
      simp [hown]

/-- The loop has seen every station where it does not leave early. -/
theorem neighbourLoop_snd {own : List ℤ} {l : List BaseStationInformation}
    (hnone : ¬ ∃ item ∈ l, item.arfcn ∈ own) (indirect : Bool) :
    (neighbourLoop arfcn own l indirect).2 = true ↔ indirect = true ∨
      ∃ item ∈ l, item.arfcn ≠ arfcn ∧ ∃ foreign ∈ item.neighbours, foreign ∈ own := by
  induction l generalizing indirect with
  | nil => simp [neighbourLoop]
  | cons item l ih =>
    have hown : item.arfcn ∉ own := fun h => hnone ⟨item, List.mem_cons_self, h⟩
    have hrest : ¬ ∃ item ∈ l, item.arfcn ∈ own := fun ⟨other, hmem, h⟩ =>
      hnone ⟨other, List.mem_cons_of_mem _ hmem, h⟩
    rw [neighbourLoop, if_neg hown, ih hrest]
    simp only [Bool.or_eq_true, decide_eq_true_eq, List.exists_mem_cons_iff, or_assoc]

theorem incomingEdges_iff (provider : Option Text) :
    incomingEdges arfcn stations provider = true ↔
      ∃ item ∈ stations, some item.provider = provider ∧ arfcn ∈ item.neighbours := by
  simp only [incomingEdges, decide_eq_true_eq, List.mem_flatMap, List.mem_filter, and_assoc]

/-- The verdict on a neighbour list that is not empty, without the loops. -/
theorem neighbourhoodStructureRule_eq {own : List ℤ}
    (hown : extractNeighbours arfcn stations = some own) (hne : own ≠ []) :
    neighbourhoodStructureRule arfcn stations = some
      (if (∃ item ∈ stations, item.arfcn ∈ own) ∧ ∃ item ∈ stations,
          some item.provider = extractProvider arfcn stations ∧ arfcn ∈ item.neighbours then .ok
        else if (∃ item ∈ stations, item.arfcn ∈ own) ∨ ∃ item ∈ stations,
          item.arfcn ≠ arfcn ∧ ∃ foreign ∈ item.neighbours, foreign ∈ own then .warning
        else .critical) := by
  rw [neighbourhoodStructureRule, hown]
  simp only [if_neg hne, incomingEdges_iff, neighbourLoop_fst]
  by_cases hfound : ∃ item ∈ stations, item.arfcn ∈ own
  · simp only [hfound, true_and, true_or, if_true, apply_ite some]
  · simp only [hfound, false_and, false_or, if_false, neighbourLoop_snd hfound, Bool.false_eq_true,
      apply_ite some]

theorem neighbourhoodStructureRule_rearranged (h : Rearranged SameStation stations stations')
    (hnodup : (stations.map (·.arfcn)).Nodup) :
    neighbourhoodStructureRule arfcn stations = neighbourhoodStructureRule arfcn stations' := by
  rcases recordOf_rearranged h hnodup arfcn with ⟨hs, hs'⟩ | ⟨s, s', hs, hs', hsame⟩
  · rw [neighbourhoodStructureRule, neighbourhoodStructureRule, extractNeighbours,
      extractNeighbours, hs, hs', Option.map_none]
  have hown : extractNeighbours arfcn stations = some s.neighbours := by
    rw [extractNeighbours, hs, Option.map_some]
  have hown' : extractNeighbours arfcn stations' = some s'.neighbours := by
    rw [extractNeighbours, hs', Option.map_some]
  by_cases hnil : s.neighbours = []
  · have hnil' : s'.neighbours = [] := hsame.nil_iff.1 hnil
    rw [neighbourhoodStructureRule, neighbourhoodStructureRule, hown, hown', hnil, hnil']
    rfl
  have hfound : (∃ item ∈ stations, item.arfcn ∈ s.neighbours) ↔
      ∃ item ∈ stations', item.arfcn ∈ s'.neighbours := by
    apply h.exists_iff
    intro item item' hitem
    rw [hitem.arfcn, hsame.neighbours]
  have hincoming : (∃ item ∈ stations, some item.provider = extractProvider arfcn stations ∧
      arfcn ∈ item.neighbours) ↔ ∃ item ∈ stations',
        some item.provider = extractProvider arfcn stations' ∧ arfcn ∈ item.neighbours := by
    apply h.exists_iff
    intro item item' hitem
    rw [extractProvider_rearranged h hnodup, hitem.provider, hitem.neighbours]
  have hindirect : (∃ item ∈ stations, item.arfcn ≠ arfcn ∧
      ∃ foreign ∈ item.neighbours, foreign ∈ s.neighbours) ↔ ∃ item ∈ stations',
        item.arfcn ≠ arfcn ∧ ∃ foreign ∈ item.neighbours, foreign ∈ s'.neighbours := by
    apply h.exists_iff
    intro item item' hitem
    rw [hitem.arfcn]
    simp only [hitem.neighbours, hsame.neighbours]
  rw [neighbourhoodStructureRule_eq hown hnil,
    neighbourhoodStructureRule_eq hown' (hnil ∘ hsame.nil_iff.2)]
  simp only [hfound, hincoming, hindirect]

theorem pureNeighbourhoodRule_rearranged (h : Rearranged SameStation stations stations')
    (hnodup : (stations.map (·.arfcn)).Nodup) :
    pureNeighbourhoodRule arfcn stations = pureNeighbourhoodRule arfcn stations' := by
  rw [pureNeighbourhoodRule, pureNeighbourhoodRule, extractNeighbours, extractNeighbours]
  rcases recordOf_rearranged h hnodup arfcn with ⟨hs, hs'⟩ | ⟨s, s', hs, hs', hsame⟩
  · rw [hs, hs', Option.map_none]
    exact if_congr h.eq_nil_iff rfl rfl
  · rw [hs, hs', Option.map_some, Option.map_some]
    refine if_congr (h.exists_iff ?_) rfl rfl
    intro item item' hitem
    rw [extractProvider_rearranged h hnodup, hitem.arfcn, hitem.provider, hsame.neighbours]

theorem discoveredNeighboursRule_rearranged (h : Rearranged SameStation stations stations')
    (hnodup : (stations.map (·.arfcn)).Nodup) :
    discoveredNeighboursRule settings arfcn stations =
      discoveredNeighboursRule settings arfcn stations' := by
  rw [discoveredNeighboursRule, discoveredNeighboursRule, extractNeighbours, extractNeighbours]
  rcases recordOf_rearranged h hnodup arfcn with ⟨hs, hs'⟩ | ⟨s, s', hs, hs', hsame⟩
  · rw [hs, hs', Option.map_none]
    simp only [h.eq_nil_iff]
  · rw [hs, hs', Option.map_some, Option.map_some]
    have hcount : (stations.filter fun item => item.arfcn ∈ s.neighbours).length =
        (stations'.filter fun item => item.arfcn ∈ s'.neighbours).length := by
      apply (h.filter ?_).length_eq
      intro item item' hitem
      rw [hitem.arfcn]
      exact decide_eq_decide.2 (hsame.neighbours _)
    simp only [hcount]

theorem cellIDDatabaseRule_rearranged (h : Rearranged SameStation stations stations')
    (hnodup : (stations.map (·.arfcn)).Nodup) :
    cellIDDatabaseRule arfcn stations = cellIDDatabaseRule arfcn stations' :=
  map_recordOf_rearranged h hnodup arfcn fun _ _ => rfl

theorem locationAreaDatabaseRule_rearranged (h : Rearranged SameStation stations stations')
    (hnodup : (stations.map (·.arfcn)).Nodup) (database : Option (List LACDBEntry)) :
    locationAreaDatabaseRule settings arfcn stations database =
      locationAreaDatabaseRule settings arfcn stations' database := by
  cases database with
  | none => rfl
  | some cache => exact map_recordOf_rearranged h hnodup arfcn fun _ _ => rfl

theorem lacChangeRule_rearranged (h : Rearranged SameStation stations stations')
    (hnodup : (stations.map (·.arfcn)).Nodup) (memory : RuleMemory) :
    lacChangeRule arfcn stations memory = lacChangeRule arfcn stations' memory :=
  map_recordOf_rearranged h hnodup arfcn fun _ _ => rfl

theorem rxChangeRule_rearranged (h : Rearranged SameStation stations stations')
    (hnodup : (stations.map (·.arfcn)).Nodup) (memory : RuleMemory) :
    rxChangeRule settings arfcn stations memory = rxChangeRule settings arfcn stations' memory :=
  map_recordOf_rearranged h hnodup arfcn fun _ _ => rfl

theorem pchRule_rearranged (h : Rearranged SameStation stations stations')
    (hnodup : (stations.map (·.arfcn)).Nodup) :
    pchRule settings arfcn stations = pchRule settings arfcn stations' :=
  map_recordOf_rearranged h hnodup arfcn fun _ _ => rfl

/-- No rule reads the order. -/
theorem check_rearranged (h : Rearranged SameStation stations stations')
    (hnodup : (stations.map (·.arfcn)).Nodup) (rule : Rule) (base : RuleBase) (arfcn : ℤ)
    (memory : RuleMemory) :
    rule.check base arfcn stations memory = rule.check base arfcn stations' memory := by
  cases rule with
  | provider => simp only [Rule.check, providerRule_rearranged h]
  | countryMapping => simp only [Rule.check, countryMappingRule_rearranged h]
  | arfcnMapping => simp only [Rule.check, arfcnMappingRule_rearranged h]
  | lacMapping => simp only [Rule.check, lacMappingRule_rearranged h]
  | uniqueCellID => simp only [Rule.check, uniqueCellIDRule_rearranged h hnodup]
  | lacMedian => simp only [Rule.check, lacMedianRule_rearranged h hnodup]
  | neighbourhoodStructure =>
    simp only [Rule.check, neighbourhoodStructureRule_rearranged h hnodup]
  | pureNeighbourhood => simp only [Rule.check, pureNeighbourhoodRule_rearranged h hnodup]
  | discoveredNeighbours =>
    simp only [Rule.check, discoveredNeighboursRule_rearranged h hnodup]
  | cellIDDatabase => simp only [Rule.check, cellIDDatabaseRule_rearranged h hnodup]
  | locationAreaDatabase =>
    simp only [Rule.check, locationAreaDatabaseRule_rearranged h hnodup]
  | lacChange => simp only [Rule.check, lacChangeRule_rearranged h hnodup]
  | rxChange => simp only [Rule.check, rxChangeRule_rearranged h hnodup]
  | pch => simp only [Rule.check, pchRule_rearranged h hnodup]

end Rules

theorem checkedAt_rearranged {stations stations' : List BaseStationInformation}
    (h : Rearranged SameStation stations stations') (hnodup : (stations.map (·.arfcn)).Nodup)
    (base : RuleBase) (memory : RuleMemory) :
    checkedAt base stations memory = checkedAt base stations' memory := by
  funext arfcn
  rw [checkedAt, checkedAt]
  generalize controllerRules = rules
  induction rules generalizing memory with
  | nil => rfl
  | cons rule rest ih =>
    rw [checkAll, checkAll, check_rearranged h hnodup]
    simp only [ih]

def judgement (stations : List Assessed) (arfcn : ℤ) :
    Option (RuleResults × Option RuleResult) :=
  (stations.find? fun item => item.station.arfcn = arfcn).map fun item =>
    (item.rulesReport, item.station.evaluation)

/-- The verdict does not depend on how a dictionary lists its entries. -/
theorem evaluate_order (evaluator : Evaluator) (settings : RuleSettings) (order order' : DictOrder)
    (results : RuleResults) :
    (evaluator.evaluate settings order results).1 =
      (evaluator.evaluate settings order' results).1 := by
  cases evaluator with
  | conservative =>
    have hworst := conservativeEvaluate_eq order' results
    exact (conservativeEvaluate_eq order results).trans hworst.symm
  | group => rfl

theorem judgement_map (base : RuleBase) (evaluator : Evaluator) (order : DictOrder)
    (stations : List BaseStationInformation) (report : ℤ → RuleResults) (arfcn : ℤ) :
    judgement (stations.map fun s => assess base evaluator order s (report s.arfcn)) arfcn =
      (recordOf arfcn stations).map fun s => (report s.arfcn,
        some (evaluator.evaluate base.settings order (report s.arfcn)).1) := by
  rw [judgement, List.find?_map, Option.map_map]
  rfl

/-- Whichever way the stations and their neighbours were discovered, an evaluation raises an
exception or not, gives each ARFCN the same rule results and verdict, and leaves the same
memories. -/
theorem evaluate_rearranged (base : RuleBase) (evaluator : Evaluator) (order order' : DictOrder)
    {stations stations' : List BaseStationInformation} (memory : RuleMemory)
    (hnodup : (stations.map (·.arfcn)).Nodup)
    (h : Rearranged SameStation stations stations') :
    (evaluate base evaluator order stations memory).map (fun r => (judgement r.1, r.2)) =
      (evaluate base evaluator order' stations' memory).map (fun r => (judgement r.1, r.2)) := by
  have hnodup' := Keyed.nodup_rearranged h (fun _ _ => SameStation.arfcn) hnodup
  have hchecked := checkedAt_rearranged h hnodup base memory
  have hsome : (∀ s ∈ stations, (checkedAt base stations memory s.arfcn).isSome) ↔
      ∀ s ∈ stations', (checkedAt base stations' memory s.arfcn).isSome := by
    apply h.forall_iff
    intro s s' hsame
    rw [hchecked, hsame.arfcn]
  rw [evaluate_eq hnodup, evaluate_eq hnodup']
  by_cases hall : ∀ s ∈ stations, (checkedAt base stations memory s.arfcn).isSome
  · rw [if_pos hall, if_pos (hsome.1 hall), Option.map_some, Option.map_some, Option.some_inj]
    refine Prod.ext (funext fun arfcn => ?_) ?_
    · dsimp only
      rw [judgement_map, judgement_map, map_recordOf_rearranged h hnodup arfcn fun _ _ => rfl]
      simp only [reportAt, hchecked, evaluate_order evaluator base.settings order order']
    · have hmem : ∀ a, a ∈ stations.map (·.arfcn) ↔ a ∈ stations'.map (·.arfcn) := fun a =>
        (h.perm_map fun _ _ => SameStation.arfcn).mem_iff
      simp only [memoryAfter, leftAt, hchecked, hmem]
  · rw [if_neg hall, if_neg (hall ∘ hsome.2), Option.map_none]

def backwards (stations : List BaseStationInformation) : List BaseStationInformation :=
  stations.reverse.map fun s => { s with neighbours := s.neighbours.reverse }

theorem rearranged_backwards (stations : List BaseStationInformation) :
    Rearranged SameStation stations (backwards stations) := by
  refine ⟨stations.reverse, (List.reverse_perm _).symm, ?_⟩
  exact List.forall₂_map_right_iff.2
    (List.forall₂_same.2 fun s _ => ⟨_, (List.reverse_perm _).symm, rfl⟩)

theorem evaluate_rearranged_four :
    (evaluate {} .group .inserted listedStations {}).isSome ∧
      (evaluate {} .group .inserted listedStations {}).map (fun r => (judgement r.1, r.2)) =
        (evaluate {} .group .inserted (backwards listedStations) {}).map
          (fun r => (judgement r.1, r.2)) :=
  ⟨by decide, evaluate_rearranged {} .group .inserted .inserted {} (by decide)
    (rearranged_backwards listedStations)⟩

end ImsiCatcher

import ImsiCatcher.Evaluation
import Mathlib.Data.Multiset.Lattice

/-!
# The conservative verdict

Results are ordered by severity. The conservative evaluator takes the worst of the rule
results and of `Ok`, and the image of the window shows the worst evaluation of the displayed
stations; both loops leave early and the second one keeps a flag. The worst over the
displayed stations is then the worst over all their rule results.
-/

namespace ImsiCatcher
namespace RuleResult

def severity : RuleResult → ℕ
  | ignore => 0
  | ok => 1
  | warning => 2
  | critical => 3

instance : LinearOrder RuleResult where
  le a b := a.severity ≤ b.severity
  le_refl a := Nat.le_refl a.severity
  le_trans a b c := Nat.le_trans
  le_antisymm a b := by cases a <;> cases b <;> decide
  le_total a b := Nat.le_total a.severity b.severity
  toDecidableLE a b := Nat.decLe a.severity b.severity
  toDecidableEq := inferInstance

instance : OrderBot RuleResult where
  bot := ignore
  bot_le a := by cases a <;> decide

instance : OrderTop RuleResult where
  top := critical
  le_top a := by cases a <;> decide

def worst (results : List RuleResult) : RuleResult := (results : Multiset RuleResult).sup

@[simp] theorem worst_cons (result : RuleResult) (results : List RuleResult) :
    worst (result :: results) = result ⊔ worst results := by
  rw [worst, ← Multiset.cons_coe, Multiset.sup_cons, worst]

theorem worst_append (as bs : List RuleResult) : worst (as ++ bs) = worst as ⊔ worst bs := by
  rw [worst, ← Multiset.coe_add, Multiset.sup_add, worst, worst]

theorem worst_perm {as bs : List RuleResult} (h : as.Perm bs) : worst as = worst bs := by
  rw [worst, Multiset.coe_eq_coe.2 h, worst]

theorem worst_flatMap {α : Type} (l : List α) (f : α → List RuleResult) :
    worst (l.flatMap f) = worst (l.map fun a => worst (f a)) := by
  induction l with
  | nil => rfl
  | cons a l ih => rw [List.flatMap_cons, worst_append, ih, List.map_cons, worst_cons]

theorem mem_of_worst {results : List RuleResult} (h : worst results ≠ ignore) :
    worst results ∈ results := by
  induction results with
  | nil => exact absurd rfl h
  | cons result results ih =>
    rw [worst_cons] at h ⊢
    rcases le_total (worst results) result with hle | hle
    · rw [sup_eq_left.2 hle]
      exact List.mem_cons_self
    · rw [sup_eq_right.2 hle] at h ⊢
      exact List.mem_cons_of_mem _ (ih h)

theorem le_worst {result : RuleResult} {results : List RuleResult} (h : result ∈ results) :
    result ≤ worst results := Multiset.le_sup (Multiset.mem_coe.2 h)

/-- The worst result is the first of the four, from the top, that is there. -/
theorem worst_eq (results : List RuleResult) :
    worst results = if critical ∈ results then critical
      else if warning ∈ results then warning
      else if ok ∈ results then ok else ignore := by
  have hle : ∀ result ∈ results, result ≤ worst results := fun _ h => le_worst h
  by_cases hcritical : critical ∈ results
  · rw [if_pos hcritical]
    exact top_le_iff.1 (hle critical hcritical)
  rw [if_neg hcritical]
  have hmem := @mem_of_worst results
  by_cases hwarning : warning ∈ results
  · rw [if_pos hwarning]
    have hw := hle warning hwarning
    cases hr : worst results with
    | warning => rfl
    | critical => exact absurd (hr ▸ hmem (by rw [hr]; decide)) hcritical
    | ok => exact absurd (hr ▸ hw) (by decide)
    | ignore => exact absurd (hr ▸ hw) (by decide)
  rw [if_neg hwarning]
  by_cases hok : ok ∈ results
  · rw [if_pos hok]
    have ho := hle ok hok
    cases hr : worst results with
    | ok => rfl
    | warning => exact absurd (hr ▸ hmem (by rw [hr]; decide)) hwarning
    | critical => exact absurd (hr ▸ hmem (by rw [hr]; decide)) hcritical
    | ignore => exact absurd (hr ▸ ho) (by decide)
  · rw [if_neg hok]
    cases hr : worst results with
    | ignore => rfl
    | ok => exact absurd (hr ▸ hmem (by rw [hr]; decide)) hok
    | warning => exact absurd (hr ▸ hmem (by rw [hr]; decide)) hwarning
    | critical => exact absurd (hr ▸ hmem (by rw [hr]; decide)) hcritical

end RuleResult

open RuleResult

theorem conservativeLoop_eq (results : RuleResults) {final : RuleResult} (decision : Text)
    (hlow : ok ≤ final) (hhigh : final ≤ warning) :
    (conservativeLoop results (final, decision)).1 = final ⊔ worst (results.map (·.2)) := by
  induction results generalizing final decision with
  | nil => exact (sup_bot_eq final).symm
  | cons entry rest ih =>
    obtain ⟨key, result⟩ := entry
    rw [List.map_cons, worst_cons, ← sup_assoc]
    cases result with
    | critical =>
      change critical = _
      rw [show final ⊔ critical = critical from sup_top_eq final]
      exact (top_sup_eq _).symm
    | warning =>
      rw [sup_eq_right.2 hhigh]
      exact ih key (by decide) (le_refl _)
    | ok =>
      rw [sup_eq_left.2 hlow]
      exact ih decision hlow hhigh
    | ignore =>
      rw [show final ⊔ ignore = final from sup_bot_eq final]
      exact ih decision hlow hhigh

theorem conservativeEvaluate_eq (order : DictOrder) (results : RuleResults) :
    (conservativeEvaluate order results).1 = worst (ok :: results.map (·.2)) := by
  rw [worst_cons, ← worst_perm ((order.perm results).map (·.2))]
  exact conservativeLoop_eq _ _ (le_refl _) (by decide)

theorem imageLoop_eq (evaluations : List (Option RuleResult)) {result : RuleResult}
    {atLeastWarning : Bool} (hflag : atLeastWarning = true ↔ result = warning)
    (hhigh : result ≤ warning) :
    imageLoop evaluations result atLeastWarning =
      result ⊔ worst (evaluations.map fun evaluation => evaluation.getD ignore) := by
  induction evaluations generalizing result atLeastWarning with
  | nil => exact (sup_bot_eq result).symm
  | cons evaluation rest ih =>
    rw [imageLoop, List.map_cons, worst_cons, ← sup_assoc]
    by_cases hok : evaluation = some ok ∧ atLeastWarning = false
    · have hlow : result ≤ ok := by
        have hne : result ≠ warning := by
          intro h
          rw [hflag.2 h] at hok
          exact absurd hok.2 (by decide)
        cases result
        · decide
        · exact absurd rfl hne
        · exact absurd hhigh (by decide)
        · decide
      rw [if_pos hok, hok.1, Option.getD_some, sup_eq_right.2 hlow]
      exact ih (by rw [hok.2]; decide) (by decide)
    rw [if_neg hok]
    by_cases hwarning : evaluation = some warning
    · rw [if_pos hwarning, hwarning, Option.getD_some, sup_eq_right.2 hhigh]
      exact ih (by decide) (le_refl _)
    rw [if_neg hwarning]
    by_cases hcritical : evaluation = some critical
    · rw [if_pos hcritical, hcritical, Option.getD_some,
        show result ⊔ critical = critical from sup_top_eq result]
      exact (top_sup_eq _).symm
    · rw [if_neg hcritical, ih hflag hhigh]
      have hkeep : result ⊔ evaluation.getD ignore = result := by
        rcases evaluation with _ | evaluation
        · exact sup_bot_eq result
        cases evaluation with
        | critical => exact absurd rfl hcritical
        | warning => exact absurd rfl hwarning
        | ignore => exact sup_bot_eq result
        | ok =>
          have htrue : atLeastWarning = true := by
            cases atLeastWarning
            · exact absurd ⟨rfl, rfl⟩ hok
            · rfl
          rw [hflag.1 htrue]
          decide
      rw [hkeep]

/-- An active rule returned the result for the station. -/
def Assessed.Found (base : RuleBase) (item : Assessed) (result : RuleResult) : Prop :=
  ∃ rule ∈ controllerRules, base.active rule = true ∧ (rule.identifier, result) ∈ item.rulesReport

instance (base : RuleBase) (item : Assessed) (result : RuleResult) :
    Decidable (item.Found base result) :=
  inferInstanceAs (Decidable (∃ rule ∈ controllerRules, _))

theorem found_iff {base : RuleBase} {evaluator : Evaluator} {order : DictOrder}
    {stations : List BaseStationInformation} {memory : RuleMemory}
    {r : List Assessed × RuleMemory} (h : evaluate base evaluator order stations memory = some r)
    {item : Assessed} (hitem : item ∈ r.1) (result : RuleResult) :
    item.Found base result ↔ result ∈ item.rulesReport.map (·.2) := by
  obtain ⟨station, -, m, checked, hchecked, rfl⟩ := mem_evaluateLoop h hitem
  constructor
  · rintro ⟨rule, -, -, hmem⟩
    exact List.mem_map_of_mem (f := (·.2)) hmem
  · intro hmem
    obtain ⟨entry, hentry, rfl⟩ := List.mem_map.1 hmem
    obtain ⟨rule, hrule, hactive, hid, -⟩ := mem_checkAll hchecked hentry
    exact ⟨rule, hrule, hactive, hid ▸ hentry⟩

/-- The image is the worst of all the results behind the displayed stations. -/
theorem image_triggerRedraw {base : RuleBase} {order : DictOrder}
    {stations : List BaseStationInformation} {memory : RuleMemory}
    {r : List Assessed × RuleMemory}
    (h : evaluate base .conservative order stations memory = some r) {displayed : List Assessed}
    (hsub : displayed ⊆ r.1) :
    (triggerRedraw displayed).image =
      worst (displayed.flatMap fun item => ok :: item.rulesReport.map (·.2)) := by
  change imageLoop (displayed.map (·.station.evaluation)) ignore false = _
  rw [imageLoop_eq _ (by decide) (by decide), show ∀ result, ignore ⊔ result = result from
    bot_sup_eq, worst_flatMap, List.map_map]
  congr 1
  apply List.map_congr_left
  intro item hitem
  obtain ⟨station, -, m, checked, -, rfl⟩ := mem_evaluateLoop h (hsub hitem)
  exact conservativeEvaluate_eq order checked.1

theorem evaluatorImage_conservative (base : RuleBase) (order : DictOrder) (filters : Filters)
    (stations : List BaseStationInformation) (memory : RuleMemory) {r : Refresh}
    (h : triggerEvaluation base .conservative order filters stations memory = some r) :
    r.redraw.image =
      if ∃ item ∈ r.displayed, item.Found base .critical then .critical
      else if ∃ item ∈ r.displayed, item.Found base .warning then .warning
      else if r.displayed ≠ [] then .ok else .ignore := by
  obtain ⟨r', hr', rfl⟩ := Option.map_eq_some_iff.1 h
  have hsub : filters.displayed r'.1 ⊆ r'.1 := filters.displayed_subset r'.1
  have hmem : ∀ result : RuleResult, result ≠ .ok →
      (result ∈ (filters.displayed r'.1).flatMap (fun item => ok :: item.rulesReport.map (·.2)) ↔
        ∃ item ∈ filters.displayed r'.1, item.Found base result) := by
    intro result hne
    rw [List.mem_flatMap]
    apply exists_congr
    intro item
    apply and_congr_right
    intro hitem
    rw [List.mem_cons, or_iff_right hne, found_iff hr' (hsub hitem)]
  have hok : ∀ l : List Assessed, l ≠ [] →
      ok ∈ l.flatMap (fun item => ok :: item.rulesReport.map (·.2)) := by
    intro l hl
    obtain ⟨item, hitem⟩ := List.exists_mem_of_ne_nil l hl
    exact List.mem_flatMap.2 ⟨item, hitem, List.mem_cons_self⟩
  change (triggerRedraw (filters.displayed r'.1)).image = _
  rw [image_triggerRedraw hr' hsub, worst_eq]
  simp only [hmem critical (by decide), hmem warning (by decide)]
  by_cases hnil : filters.displayed r'.1 = []
  · simp [hnil]
  · simp [hnil, hok _ hnil]

/-- Two rules are asked; the window shows the stations of two providers. -/
def twoRules : RuleBase where
  active rule := rule = .provider ∨ rule = .neighbourhoodStructure

def twoProviders : Filters where
  providerFilter := ⟨true, "O2, E-Plus".toList⟩

def listedStations : List BaseStationInformation :=
  [{ provider := "O2".toList, arfcn := 700, neighbours := [637] },
    { provider := "O2".toList, arfcn := 637, neighbours := [700] },
    { provider := "E-Plus".toList, arfcn := 980, neighbours := [637, 700] },
    { provider := "Carry".toList, arfcn := 5, neighbours := [] }]

theorem evaluatorImage_conservative_four :
    ∃ r, triggerEvaluation twoRules .conservative .inserted twoProviders listedStations {} =
        some r ∧ r.displayed.length = 3 ∧ r.redraw.image = .warning := by
  refine ⟨_, rfl, by decide, ?_⟩
  rw [evaluatorImage_conservative twoRules .inserted twoProviders listedStations {} rfl]
  decide

end ImsiCatcher

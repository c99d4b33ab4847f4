import ImsiCatcher.StaleVerdicts

/-!
# Saved projects

`save_project` pickles the list of records, and `load_project` puts it in the place of the
current one and evaluates. What the change rules remember stays with the controller: a loaded
project is judged with the memories of another list, and a saved one is judged without its
own.
-/

namespace ImsiCatcher

/-- A comparison is due where the record was sighted again since the entry was written. -/
def Remembered.Due (old : Remembered) (item : BaseStationInformation) : Prop :=
  1 < item.timesScanned ∧ old.timesScanned < item.timesScanned

instance (old : Remembered) (item : BaseStationInformation) : Decidable (old.Due item) :=
  inferInstanceAs (Decidable (_ ∧ _))

namespace Rule

/-- What a change rule compares: the LACs, or the levels up to the threshold. -/
def Agrees (rule : Rule) (settings : RuleSettings) (item : BaseStationInformation)
    (old : Remembered) : Prop :=
  if rule = lacChange then item.lac = old.value
  else (old.value : ℚ) - |old.value * settings.chRxThreshold| ≤ item.rxlev ∧
    (item.rxlev : ℚ) ≤ old.value + |old.value * settings.chRxThreshold|

instance (rule : Rule) (settings : RuleSettings) (item : BaseStationInformation)
    (old : Remembered) : Decidable (rule.Agrees settings item old) := by
  unfold Agrees
  infer_instance

/-- Two memories of an ARFCN bear alike on a record. An entry whose comparison is not due
holds a result, and no entry counts as `Ignore`. -/
def Alike (rule : Rule) (settings : RuleSettings) (item : BaseStationInformation) :
    Option Remembered → Option Remembered → Prop
  | none, none => True
  | none, some old | some old, none => ¬old.Due item ∧ old.result = .ignore
  | some old, some old' =>
    if old.Due item ∧ old'.Due item then
      (rule.Agrees settings item old ↔ rule.Agrees settings item old')
    else if old.Due item then
      old'.result = if rule.Agrees settings item old then .ok else .critical
    else if old'.Due item then
      old.result = if rule.Agrees settings item old' then .ok else .critical
    else old.result = old'.result

instance (rule : Rule) (settings : RuleSettings) (item : BaseStationInformation) :
    ∀ m m', Decidable (rule.Alike settings item m m')
  | none, none => inferInstanceAs (Decidable True)
  | none, some _ => inferInstanceAs (Decidable (_ ∧ _))
  | some _, none => inferInstanceAs (Decidable (_ ∧ _))
  | some _, some _ => by
    unfold Alike
    infer_instance

variable {rule : Rule}

theorem change_none (hrule : rule.IsChange) (settings : RuleSettings)
    (item : BaseStationInformation) :
    (rule.change settings item none).result = .ignore := by
  rcases hrule with rfl | rfl <;> rfl

theorem changeRule_some (agrees : ℤ → ℤ → Bool) (next : ℤ → ℤ → ℤ) (value : ℤ)
    (item : BaseStationInformation) (old : Remembered) :
    changeRule agrees next value item.timesScanned (some old) =
      if old.Due item then
        if agrees old.value value then ⟨value, item.timesScanned, .ok⟩
        else ⟨next old.value value, item.timesScanned, .critical⟩
      else old := rfl

theorem changeRule_result (agrees : ℤ → ℤ → Bool) (next : ℤ → ℤ → ℤ) (value : ℤ)
    (item : BaseStationInformation) (old : Remembered) :
    (changeRule agrees next value item.timesScanned (some old)).result =
      if old.Due item then if agrees old.value value = true then .ok else .critical
      else old.result := by
  rw [changeRule_some]
  split_ifs <;> rfl

theorem change_some (hrule : rule.IsChange) (settings : RuleSettings)
    (item : BaseStationInformation) (old : Remembered) :
    (rule.change settings item (some old)).result =
      if old.Due item then if rule.Agrees settings item old then .ok else .critical
      else old.result := by
  rcases hrule with rfl | rfl
  · unfold change
    simp only [if_true, Agrees]
    refine (changeRule_result _ _ item.lac item old).trans (if_congr Iff.rfl ?_ rfl)
    exact if_congr decide_eq_true_iff rfl rfl
  · unfold change
    have hne : rxChange ≠ lacChange := by decide
    simp only [if_neg hne, Agrees]
    refine (changeRule_result _ _ item.rxlev item old).trans (if_congr Iff.rfl ?_ rfl)
    exact if_congr decide_eq_true_iff rfl rfl

/-- A change rule returns the same with either memory just when they bear alike. -/
theorem change_eq_iff (hrule : rule.IsChange) (settings : RuleSettings)
    (item : BaseStationInformation) (m m' : Option Remembered) :
    (rule.change settings item m).result = (rule.change settings item m').result ↔
      rule.Alike settings item m m' := by
  have hcompared : ∀ old : Remembered,
      (if rule.Agrees settings item old then RuleResult.ok else .critical) ≠ .ignore := by
    intro old
    split_ifs <;> decide
  have hfresh : ∀ old : Remembered, (rule.change settings item (some old)).result = .ignore ↔
      ¬old.Due item ∧ old.result = .ignore := by
    intro old
    rw [change_some hrule]
    by_cases hdue : old.Due item
    · simp [hdue, hcompared old]
    · simp [hdue]
  cases m with
  | none =>
    cases m' with
    | none => exact iff_of_true rfl trivial
    | some old' =>
      rw [change_none hrule, eq_comm]
      exact hfresh old'
  | some old =>
    cases m' with
    | none =>
      rw [change_none hrule]
      exact hfresh old
    | some old' =>
      rw [change_some hrule, change_some hrule, Alike]
      by_cases hdue : old.Due item <;> by_cases hdue' : old'.Due item
      · have hboth : old.Due item ∧ old'.Due item := ⟨hdue, hdue'⟩
        rw [if_pos hdue, if_pos hdue', if_pos hboth]
        by_cases hold : rule.Agrees settings item old <;>
          by_cases hnew : rule.Agrees settings item old' <;>
          simp only [hold, hnew, if_true, if_false] <;>
          decide
      · have hnot : ¬(old.Due item ∧ old'.Due item) := fun h => hdue' h.2
        rw [if_pos hdue, if_neg hdue', if_neg hnot, if_pos hdue, eq_comm]
      · have hnot : ¬(old.Due item ∧ old'.Due item) := fun h => hdue h.1
        rw [if_neg hdue, if_pos hdue', if_neg hnot, if_neg hdue, if_pos hdue']
      · have hnot : ¬(old.Due item ∧ old'.Due item) := fun h => hdue h.1
        rw [if_neg hdue, if_neg hdue', if_neg hnot, if_neg hdue, if_neg hdue']

end Rule

namespace RuleSession
variable {s s' : RuleSession}

/-- The records with all that they hold. -/
def saved (s : RuleSession) : List SavedStation :=
  s.stations.mapIdx fun i station =>
    { station := station, rulesReport := s.reports.getD i [] }

theorem map_station_saved (s : RuleSession) : s.saved.map (·.station) = s.stations :=
  List.ext_getElem (by simp [saved]) (by simp [saved])

theorem map_restore_saved (s : RuleSession) : s.saved.map (·.restore) = s.stations :=
  List.ext_getElem (by simp [saved]) (by simp [saved, SavedStation.restore])

def saveProject (s : RuleSession) (hs : s.Distinct) : Project where
  saved := s.saved
  nodup := by
    rw [show (fun saved : SavedStation => saved.station.arfcn) =
      BaseStationInformation.arfcn ∘ SavedStation.station from rfl, ← List.map_map,
      map_station_saved]
    exact hs

/-- The state that `load_project` evaluates. -/
def replaced (s : RuleSession) (project : Project) : RuleSession :=
  { s.withStations project.stations with
    reports := project.saved.map SavedStation.rulesReport }

theorem shown_loadProject (s : RuleSession) (project : Project) (order : DictOrder) :
    (s.loadProject project order).shown = (s.replaced project).due :=
  triggerEvaluation_shown (s := s.replaced project) project.nodup_stations order

/-- With the same rules and evaluator and the same records, what is due differs at most in what
the change rules make of the memories. -/
theorem due_eq_iff_alike (hs : s.Distinct) (hstations : s'.stations = s.stations)
    (hbase : s'.base = s.base) (hevaluator : s'.evaluator = s.evaluator) :
    s'.due = s.due ↔ ∀ rule : Rule, rule.IsChange → s.base.active rule = true →
      ∀ station ∈ s.stations, rule.Alike {} station
        (rule.remembered s'.memory station.arfcn) (rule.remembered s.memory station.arfcn) := by
  have harfcns : s'.arfcns = s.arfcns := by rw [arfcns, arfcns, hstations]
  have hchange : ∀ rule : Rule, rule.IsChange → ∀ station ∈ s.stations,
      (rule.outcome s.base s.stations s'.memory station.arfcn =
          rule.outcome s.base s.stations s.memory station.arfcn ↔
        rule.Alike {} station (rule.remembered s'.memory station.arfcn)
          (rule.remembered s.memory station.arfcn)) := by
    intro rule hrule station hmem
    have hitem := recordOf_of_mem hs hmem
    rw [Rule.outcome_change hrule hitem, Rule.outcome_change hrule hitem]
    exact Rule.change_eq_iff hrule _ station _ _
  rw [due_eq_iff hevaluator harfcns]
  simp only [report, hbase, hstations, resultsOf_inj]
  constructor
  · intro hreport rule hrule hactive station hmem
    exact (hchange rule hrule station hmem).1
      (hreport station.arfcn (List.mem_map_of_mem hmem) rule hactive)
  · intro halike arfcn hmem rule hactive
    obtain ⟨station, hstation, rfl⟩ := List.mem_map.1 hmem
    by_cases hrule : rule.IsChange
    · exact (hchange rule hrule station hstation).2 (halike rule hrule hactive station hstation)
    · exact Rule.outcome_congr fun h => absurd h hrule

end RuleSession

/-- After any two histories with the same rules, evaluator and databases a project is shown the
same just when the memories that the active change rules have of its ARFCNs bear alike on its
records. -/
theorem loaded_project_shown_alike_iff (es es' : List RuleSessionEvent) (project : Project)
    (order order' : DictOrder)
    (hbase : (ruleSession.run {} es').1.base = (ruleSession.run {} es).1.base)
    (hevaluator : (ruleSession.run {} es').1.evaluator = (ruleSession.run {} es).1.evaluator) :
    ((ruleSession.run {} es').1.loadProject project order').shown =
        ((ruleSession.run {} es).1.loadProject project order).shown ↔
      ∀ rule : Rule, rule.IsChange → (ruleSession.run {} es).1.base.active rule = true →
        ∀ station ∈ project.stations, rule.Alike {} station
          (rule.remembered (ruleSession.run {} es').1.memory station.arfcn)
          (rule.remembered (ruleSession.run {} es).1.memory station.arfcn) := by
  rw [RuleSession.shown_loadProject, RuleSession.shown_loadProject]
  exact @RuleSession.due_eq_iff_alike ((ruleSession.run {} es).1.replaced project)
    ((ruleSession.run {} es').1.replaced project) project.nodup_stations rfl hbase hevaluator

def lacOnly : RuleSessionEvent := .updateRules (fun rule => rule = .lacChange) .inserted

theorem eq_lacChange {base : RuleBase} (h : base.active .rxChange = false) {rule : Rule}
    (hrule : rule.IsChange) (hactive : base.active rule = true) : rule = .lacChange := by
  rcases hrule with rfl | rfl
  · rfl
  · rw [h] at hactive
    exact absurd hactive Bool.false_ne_true

/-- ARFCN 20 was sighted twice, with the same LAC. -/
def twiceSighted : List RuleSessionEvent :=
  [lacOnly, .foundBaseStation cellTwo .inserted, .foundBaseStation cellTwo .inserted]

def twiceSightedProject : Project :=
  (ruleSession.run {} twiceSighted).1.saveProject (RuleSession.distinct_run twiceSighted)

theorem loaded_project_shown_alike_twice :
    ((ruleSession.run {} twiceSighted).1.loadProject twiceSightedProject .inserted).shown =
      ((ruleSession.run {} [lacOnly, .foundBaseStation cellTwo .inserted]).1.loadProject
        twiceSightedProject .inserted).shown := by
  rw [loaded_project_shown_alike_iff [lacOnly, .foundBaseStation cellTwo .inserted] twiceSighted
    twiceSightedProject .inserted .inserted rfl rfl]
  intro rule hrule hactive
  obtain rfl := eq_lacChange (by decide +kernel) hrule hactive
  decide +kernel

/-- A sighting of ARFCN 20 with another LAC, in a session that then loads the project, makes
its verdict `Critical` instead of `Ignore`. -/
theorem loaded_project_shown_otherwise : ¬ ∀ (es es' : List RuleSessionEvent) (project : Project)
    (order order' : DictOrder),
    (ruleSession.run {} es').1.base = (ruleSession.run {} es).1.base →
    (ruleSession.run {} es').1.evaluator = (ruleSession.run {} es).1.evaluator →
    ((ruleSession.run {} es').1.loadProject project order').shown =
      ((ruleSession.run {} es).1.loadProject project order).shown := by
  intro h
  have hsame := h [lacOnly] [lacOnly, .foundBaseStation cellOne .inserted] twiceSightedProject
    .inserted .inserted rfl rfl
  revert hsame
  decide +kernel

/-- Sightings and evaluations; a project that is loaded is evaluated too, but is not one of
them. -/
def RuleSessionEvent.Evaluates : RuleSessionEvent → Prop
  | .foundBaseStation _ _ | .triggerEvaluation _ | .setEvaluator _ _ | .updateRules _ _
  | .pchClosed _ _ => True
  | _ => False

/-- What a check has left is not due at the record that was checked. -/
theorem Rule.change_not_due {rule : Rule} (hrule : rule.IsChange) (settings : RuleSettings)
    (item : BaseStationInformation) (m : Option Remembered) :
    ¬(rule.change settings item m).Due item := by
  obtain ⟨agrees, next, value, hchange⟩ := change_eq_changeRule hrule settings item
  rw [hchange]
  cases m with
  | none => exact fun h => lt_irrefl _ h.2
  | some old =>
    rw [changeRule_some]
    split_ifs with hdue hagrees
    · exact fun h => lt_irrefl _ h.2
    · exact fun h => lt_irrefl _ h.2
    · exact hdue

namespace RuleSession
variable {s : RuleSession}

/-- No comparison is due of a record and what an active change rule remembers of it. -/
def Settled (s : RuleSession) : Prop :=
  ∀ rule : Rule, rule.IsChange → s.base.active rule = true → ∀ station ∈ s.stations,
    ∀ old ∈ rule.remembered s.memory station.arfcn, ¬old.Due station

theorem triggerEvaluation_settled (hs : s.Distinct) (order : DictOrder) :
    (s.triggerEvaluation order).Settled := by
  obtain ⟨r, hevaluated, heq⟩ := triggerEvaluation_eq hs order
  obtain ⟨verdict, hverdict⟩ := hevaluated.stations
  rw [heq]
  intro rule hrule hactive station hmem old hold
  change station ∈ r.1.map (·.station) at hmem
  rw [hverdict] at hmem
  obtain ⟨item, hitem, rfl⟩ := List.mem_map.1 hmem
  change rule.remembered r.2 item.arfcn = some old at hold
  rw [hevaluated.remembered rule hrule hactive _ item (recordOf_of_mem hs hitem)] at hold
  rw [← Option.some_inj.1 hold]
  exact Rule.change_not_due hrule {} item _

theorem evaluates_next (hs : s.Distinct) {e : RuleSessionEvent} (he : e.Evaluates) :
    (s.next e).UpToDate ∧ (s.next e).Settled := by
  have hevaluation : ∀ (s' : RuleSession) (order : DictOrder), s'.Distinct →
      (s'.triggerEvaluation order).UpToDate ∧ (s'.triggerEvaluation order).Settled :=
    fun s' order hs' => ⟨triggerEvaluation_upToDate hs' order, triggerEvaluation_settled hs' order⟩
  cases e with
  | foundBaseStation p order => exact hevaluation _ order (nodup_addStation hs p.station)
  | triggerEvaluation order => exact hevaluation s order hs
  | setEvaluator evaluator order => exact hevaluation _ order hs
  | updateRules active order => exact hevaluation _ order hs
  | pchClosed integration order => exact hevaluation _ order hs
  | _ => exact absurd he (by simp [RuleSessionEvent.Evaluates])

theorem evaluates_run {es : List RuleSessionEvent} (hes : ∀ e ∈ es.getLast?, e.Evaluates) :
    (ruleSession.run {} es).1.UpToDate ∧ (ruleSession.run {} es).1.Settled := by
  rcases List.eq_nil_or_concat es with rfl | ⟨before, e, rfl⟩
  · refine ⟨fun _ => rfl, ?_⟩
    intro rule _ _ station hmem
    exact absurd hmem List.not_mem_nil
  · have he : e.Evaluates := hes e (by simp)
    rw [List.concat_eq_append, ruleSession.run_append]
    exact evaluates_next (distinct_run before) he

/-- A controller that was just started, with the same rules, evaluator and databases. -/
def fresh (s : RuleSession) : RuleSession where
  controller := { pchIntegration := s.controller.pchIntegration }
  cache := s.cache
  active := s.active
  evaluator := s.evaluator

theorem loadProject_fresh_iff (hs : s.Distinct) (hup : s.UpToDate) (hsettled : s.Settled)
    (order : DictOrder) :
    (s.fresh.loadProject (s.saveProject hs) order).shown = s.shown ↔
      ∀ rule : Rule, rule.IsChange → s.base.active rule = true → ∀ station ∈ s.stations,
        ∀ old ∈ rule.remembered s.memory station.arfcn, old.result = .ignore := by
  have hstations : (s.fresh.replaced (s.saveProject hs)).stations = s.stations :=
    s.map_restore_saved
  rw [shown_loadProject, (upToDate_iff hs).1 hup, due_eq_iff_alike hs hstations rfl rfl]
  refine forall₃_congr fun rule hrule hactive => forall₂_congr fun station hmem => ?_
  have hnone : rule.remembered (s.fresh.replaced (s.saveProject hs)).memory station.arfcn =
      none := by
    rcases hrule with rfl | rfl <;> rfl
  rw [hnone]
  have hnotdue := hsettled rule hrule hactive station hmem
  cases hold : rule.remembered s.memory station.arfcn with
  | none => exact iff_of_true trivial fun _ h => absurd h (by simp)
  | some old =>
    have hdue : ¬old.Due station := hnotdue old hold
    simp [Rule.Alike, hdue]

end RuleSession

/-- Where the latest operation was an evaluation, a saved project is shown the same by another
controller just when what the active change rules remember of its records is `Ignore`. -/
theorem saved_project_shown_alike_iff (es : List RuleSessionEvent)
    (hes : ∀ e ∈ es.getLast?, e.Evaluates) (order : DictOrder) :
    ((ruleSession.run {} es).1.fresh.loadProject
        ((ruleSession.run {} es).1.saveProject (RuleSession.distinct_run es)) order).shown =
        (ruleSession.run {} es).1.shown ↔
      ∀ rule : Rule, rule.IsChange → (ruleSession.run {} es).1.base.active rule = true →
        ∀ station ∈ (ruleSession.run {} es).1.stations,
          ∀ old ∈ rule.remembered (ruleSession.run {} es).1.memory station.arfcn,
            old.result = .ignore := by
  obtain ⟨hup, hsettled⟩ := RuleSession.evaluates_run hes
  exact RuleSession.loadProject_fresh_iff (RuleSession.distinct_run es) hup hsettled order

theorem saved_project_shown_alike_once :
    ((ruleSession.run {} [lacOnly, .foundBaseStation cellOne .inserted]).1.fresh.loadProject
        ((ruleSession.run {} [lacOnly, .foundBaseStation cellOne .inserted]).1.saveProject
          (RuleSession.distinct_run _)) .inserted).shown =
      (ruleSession.run {} [lacOnly, .foundBaseStation cellOne .inserted]).1.shown := by
  rw [saved_project_shown_alike_iff [lacOnly, .foundBaseStation cellOne .inserted]
    (by rintro e ⟨⟩; trivial) .inserted]
  intro rule hrule hactive
  obtain rfl := eq_lacChange (by decide +kernel) hrule hactive
  decide +kernel

/-- A change of the LAC is shown as `Critical`, and as `Ignore` in the project. -/
theorem saved_project_shown_otherwise : ¬ ∀ (es : List RuleSessionEvent) (order : DictOrder),
    (∀ e ∈ es, e.Evaluates) →
    ((ruleSession.run {} es).1.fresh.loadProject
        ((ruleSession.run {} es).1.saveProject (RuleSession.distinct_run es)) order).shown =
      (ruleSession.run {} es).1.shown := by
  intro h
  have hsame := h [lacOnly, .foundBaseStation cellOne .inserted,
    .foundBaseStation cellTwo .inserted] .inserted (by simp [RuleSessionEvent.Evaluates, lacOnly])
  revert hsame
  decide +kernel

end ImsiCatcher

import ImsiCatcher.Evidence
import ImsiCatcher.Outcomes

/-!
# The controller with its rules

The rules, the evaluator, the cache of the location database and the memories of the change
rules are part of the state. An evaluation writes a verdict and a report into each record,
and what is written stays until the next evaluation. A project is the list of the records;
the memories are not in it.
-/

namespace ImsiCatcher

/-- A record as it was pickled; the records of old scans know nothing of pagings. -/
structure SavedStation where
  station : BaseStationInformation
  rulesReport : RuleResults
  hasPagings : Bool := true

def SavedStation.restore (saved : SavedStation) : BaseStationInformation :=
  if saved.hasPagings then saved.station
  else { saved.station with
    immAssHop := 0
    immAssNonHop := 0
    pagings := 0
    pchScanDone := false }

/-- A list of records as `add_station` keeps it, with one record for each ARFCN. -/
structure Project where
  saved : List SavedStation
  nodup : (saved.map (·.station.arfcn)).Nodup

namespace Project

def stations (project : Project) : List BaseStationInformation :=
  project.saved.map (·.restore)

theorem nodup_stations (project : Project) : (project.stations.map (·.arfcn)).Nodup := by
  have harfcn : (·.arfcn) ∘ SavedStation.restore = fun saved => saved.station.arfcn := by
    funext saved
    rw [Function.comp_apply, SavedStation.restore]
    split <;> rfl
  rw [stations, List.map_map, harfcn]
  exact project.nodup

end Project

/-- The reports are those of the controller's records, in their order; `active` says which of
the rules are active but for the PCH rule, which is `pch_scan_integration`. -/
structure RuleSession where
  controller : Controller := {}
  reports : List RuleResults := []
  memory : RuleMemory := {}
  cache : List LACDBEntry := []
  active : Rule → Bool := ({} : RuleBase).active
  evaluator : Evaluator := .conservative

inductive RuleSessionEvent where
  | startScan
  | stopScan
  | foundBaseStation (p : ParsedStation) (order : DictOrder)
  | triggerEvaluation (order : DictOrder)
  | setEvaluator (evaluator : Evaluator) (order : DictOrder)
  | updateRules (active : Rule → Bool) (order : DictOrder)
  | pchClosed (integration : Bool) (order : DictOrder)
  | pchScanClicked (integration : Bool) (arfcns : List ℤ) (timeout : ℤ)
  | userPchScan (provider : Text)
  | pchDone (arfcn : ℤ) (values : PchResult) (failed : Bool)
  | updateDatabases (useGoogle useOpenCellId useLocalDb : Bool) (cache : List LACDBEntry)
  | updateLocationDatabase (cache : List LACDBEntry)
  | updateWithWebServices (answers : ℤ → CIDDatabases → Option LookupAnswer)
  | loadProject (project : Project) (order : DictOrder)

abbrev Verdicts := List (Option RuleResult) × List RuleResults

def writtenBy (assessed : List Assessed) : Verdicts :=
  (assessed.map (·.station.evaluation), assessed.map (·.rulesReport))

namespace RuleSession

def stations (s : RuleSession) : List BaseStationInformation := s.controller.stations

def base (s : RuleSession) : RuleBase where
  database := some s.cache
  active rule := if rule = .pch then s.controller.pchIntegration else s.active rule

def shown (s : RuleSession) : Verdicts := (s.stations.map (·.evaluation), s.reports)

def evaluate (s : RuleSession) (order : DictOrder) : Option (List Assessed × RuleMemory) :=
  ImsiCatcher.evaluate s.base s.evaluator order s.stations s.memory

def withStations (s : RuleSession) (stations : List BaseStationInformation) : RuleSession :=
  { s with controller := { s.controller with stations := stations } }

/-- With the settings as they are no rule raises an exception on records with distinct
ARFCNs, and the first case does not occur. -/
def triggerEvaluation (s : RuleSession) (order : DictOrder) : RuleSession :=
  match s.evaluate order with
  | none => s
  | some r => { s.withStations (r.1.map (·.station)) with
      reports := r.1.map (·.rulesReport)
      memory := r.2 }

def foundBaseStationCallback (s : RuleSession) (station : BaseStationInformation)
    (order : DictOrder) : RuleSession :=
  (s.withStations (addStation s.stations station)).triggerEvaluation order

def setEvaluator (s : RuleSession) (evaluator : Evaluator) (order : DictOrder) : RuleSession :=
  { s with evaluator := evaluator }.triggerEvaluation order

def updateRules (s : RuleSession) (active : Rule → Bool) (order : DictOrder) : RuleSession :=
  { s with active := active }.triggerEvaluation order

/-- `pch_scan_integration.is_active` is both the activation of the rule and the flag that the
callback asks. -/
def integrate (s : RuleSession) (integration : Bool) : RuleSession :=
  { s with controller := { s.controller with pchIntegration := integration } }

def updateDatabases (s : RuleSession) (useGoogle useOpenCellId useLocalDb : Bool)
    (cache : List LACDBEntry) : RuleSession :=
  { s with
    controller := { s.controller with
      useGoogle := useGoogle
      useOpenCellId := useOpenCellId
      useLocalDb := useLocalDb }
    cache := cache }

def loadProject (s : RuleSession) (project : Project) (order : DictOrder) : RuleSession :=
  { s.withStations project.stations with
    reports := project.saved.map SavedStation.rulesReport }.triggerEvaluation order

/-- The state after an operation. What the operation tells the window and the driver is left
to the controller. -/
def next (s : RuleSession) : RuleSessionEvent → RuleSession
  | .startScan => { s with controller := s.controller.startScan.1 }
  | .stopScan => { s with controller := s.controller.stopScan.1 }
  | .foundBaseStation p order => s.foundBaseStationCallback p.station order
  | .triggerEvaluation order => s.triggerEvaluation order
  | .setEvaluator evaluator order => s.setEvaluator evaluator order
  | .updateRules active order => s.updateRules active order
  | .pchClosed integration order => (s.integrate integration).triggerEvaluation order
  | .pchScanClicked integration arfcns timeout => { s with
      controller := ((s.integrate integration).controller.normalPchScan arfcns timeout).1 }
  | .userPchScan provider => { s with controller := (s.controller.userPchScan provider).1 }
  | .pchDone arfcn values failed => { s with
      controller := (s.controller.pchDoneCallback arfcn values failed).1 }
  | .updateDatabases useGoogle useOpenCellId useLocalDb cache =>
    s.updateDatabases useGoogle useOpenCellId useLocalDb cache
  | .updateLocationDatabase cache => { s with cache := cache }
  | .updateWithWebServices answers => { s with
      controller := (s.controller.updateWithWebServices answers).1 }
  | .loadProject project order => s.loadProject project order

end RuleSession

def ruleSession : Machine RuleSession RuleSessionEvent Empty := ⟨fun s e => (s.next e, [])⟩

end ImsiCatcher

import ImsiCatcher.Controller
import ImsiCatcher.Machine

/-!
# A session: the controller, its PCH threads and what it was asked

A PCH thread that was started is outstanding until it calls back. The history variables
record the ARFCN that the latest user request was about, and what each record showed when
it was last looked up and when it was last scanned; no operation reads them.
-/

namespace ImsiCatcher

structure Session where
  controller : Controller := {}
  outstanding : List ℤ := []
  asked : Option ℤ := none
  lookedUp : ℤ → Option CellIdentity := fun _ => none
  scanned : ℤ → Option CellIdentity := fun _ => none

inductive SessionEvent where
  | startScan
  | stopScan
  | normalPchScan (arfcns : List ℤ) (timeout : ℤ)
  | userPchScan (provider : Text)
  | pchDone (thread : ℕ) (values : PchResult) (failed : Bool)
  | foundBaseStation (sighting : Sighting) (verdict : ℤ → RuleResult)
  | triggerEvaluation (verdict : ℤ → RuleResult)
  | updateWithWebServices (answers : ℤ → CIDDatabases → Option LookupAnswer)
  | settings (useGoogle useOpenCellId useLocalDb pchIntegration : Bool)

def pchStarts (calls : List ControllerCall) : List ℤ :=
  calls.filterMap fun | .startPchScan arfcn _ => some arfcn | _ => none

def pchResults (calls : List ControllerCall) : List (List (ℤ × PchResult)) :=
  calls.filterMap fun | .setPchResults results => some results | _ => none

namespace Session

def init (stations : List BaseStationInformation) : Session :=
  { controller := { stations := stations } }

/-- The controller made a move, and the scans it started are outstanding. -/
def moved (s : Session) (r : Controller × List ControllerCall) :
    Session × List ControllerCall :=
  ({ s with controller := r.1, outstanding := s.outstanding ++ pchStarts r.2 }, r.2)

def shown (stations : List BaseStationInformation) (arfcn : ℤ) : Option CellIdentity :=
  (stations.find? fun item => item.arfcn = arfcn).map (·.identity)

def strongestArfcn (s : Session) (provider : Text) : Option ℤ :=
  (strongestStation s.controller.stations provider).map (·.arfcn)

/-- A callback removes its thread; a thread that is not there does not call back. -/
def pchDone (s : Session) (thread : ℕ) (values : PchResult) (failed : Bool) :
    Session × List ControllerCall :=
  match s.outstanding[thread]? with
  | none => (s, [])
  | some arfcn =>
    let scanned := fun a =>
      if a = arfcn ∧ failed = false ∧ s.controller.pchIntegration then
        shown s.controller.stations a
      else s.scanned a
    ({ s with outstanding := s.outstanding.eraseIdx thread, scanned := scanned } : Session).moved
      (s.controller.pchDoneCallback arfcn values failed)

def updateWithWebServices (s : Session) (answers : ℤ → CIDDatabases → Option LookupAnswer) :
    Session × List ControllerCall :=
  let answered := ((s.controller.lookUps answers s.controller.stations).filter
    (·.answered)).map (·.station)
  let lookedUp := fun a => (shown answered a).or (s.lookedUp a)
  ({ s with lookedUp := lookedUp } : Session).moved (s.controller.updateWithWebServices answers)

def step (s : Session) : SessionEvent → Session × List ControllerCall
  | .startScan => s.moved s.controller.startScan
  | .stopScan => s.moved s.controller.stopScan
  | .normalPchScan arfcns timeout => s.moved (s.controller.normalPchScan arfcns timeout)
  | .userPchScan provider =>
    ({ s with asked := s.strongestArfcn provider } : Session).moved
      (s.controller.userPchScan provider)
  | .pchDone thread values failed => s.pchDone thread values failed
  | .foundBaseStation sighting verdict =>
    s.moved (s.controller.foundBaseStationCallback sighting.station verdict)
  | .triggerEvaluation verdict => s.moved (s.controller.triggerEvaluation verdict)
  | .updateWithWebServices answers => s.updateWithWebServices answers
  | .settings useGoogle useOpenCellId useLocalDb pchIntegration =>
    s.moved ({ s.controller with
      useGoogle := useGoogle
      useOpenCellId := useOpenCellId
      useLocalDb := useLocalDb
      pchIntegration := pchIntegration }, [])

end Session

def nonHoppingScan : PchResult := ⟨0, 0, 1⟩

def session : Machine Session SessionEvent ControllerCall := ⟨Session.step⟩

end ImsiCatcher

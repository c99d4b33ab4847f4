import ImsiCatcher.BaseStation

/-!
# The operations of `PyCatcherController`

Each operation takes the controller to its next state and lists the calls it makes on the
window and on the driver, in order. The rules and evaluators are not part of this module:
what they make of a station is handed in as a verdict.
-/

namespace ImsiCatcher

def assignmentLimit : ℕ := 0
def pagingsPer10sThreshold : ℚ := 20
def usrTimeout : ℚ := 15

inductive ControllerCall where
  | logLine (line : Text)
  | setUserImage (status : Option RuleResult)
  | setPchResults (results : List (ℤ × PchResult))
  | startScanning
  | stopScanning
  | startPchScan (arfcn timeout : ℤ)
  deriving DecidableEq

structure Controller where
  stations : List BaseStationInformation := []
  pchScanRunning : Bool := false
  userModeFlag : Bool := false
  remainingPchArfcns : List ℤ := []
  accumulatedPchResults : List (ℤ × PchResult) := []
  pchTimeout : ℤ := 10
  pchIntegration : Bool := true
  useGoogle : Bool := false
  useOpenCellId : Bool := false
  useLocalDb : Bool := false
  pchActive : Bool := false
  sweepActive : Bool := false

structure LookupAnswer where
  status : CellIDDBStatus
  latitude : ℚ
  longitude : ℚ

namespace Controller

def log (line : String) : ControllerCall := .logLine line.toList

def startScan (c : Controller) : Controller × List ControllerCall :=
  if c.pchActive then (c, [log "Cannot sweep while PCH is active"])
  else ({ c with sweepActive := true }, [log "start scan", .startScanning])

def stopScan (c : Controller) : Controller × List ControllerCall :=
  if c.sweepActive then ({ c with sweepActive := false }, [log "stop scan", .stopScanning])
  else (c, [])

/-- `pop` takes the last element of the queue. -/
def doNextPchScan (c : Controller) : Controller × List ControllerCall :=
  match c.remainingPchArfcns.getLast? with
  | none => (c, [])
  | some arfcn =>
    let line := "Starting PCH scan on ARFCN ".toList ++ Text.decimalInt arfcn
    let c := { c with remainingPchArfcns := c.remainingPchArfcns.dropLast }
    if c.pchScanRunning then (c, [.logLine line])
    else ({ c with pchScanRunning := true }, [.logLine line, .startPchScan arfcn c.pchTimeout])

def scanPch (c : Controller) (arfcns : List ℤ) (timeout : ℤ) :
    Controller × List ControllerCall :=
  doNextPchScan { c with remainingPchArfcns := arfcns, pchTimeout := timeout }

def normalPchScan (c : Controller) (arfcns : List ℤ) (timeout : ℤ) :
    Controller × List ControllerCall :=
  if c.sweepActive then (c, [log "Cannot PCH scan during active sweep scan."])
  else
    scanPch { c with pchActive := true, accumulatedPchResults := [], userModeFlag := false }
      arfcns timeout

def userPchScan (c : Controller) (provider : Text) : Controller × List ControllerCall :=
  if c.sweepActive then (c, [log "Cannot PCH scan during active sweep scan."])
  else
    let c := { c with pchActive := true }
    if provider = [] then (c, [.setUserImage none])
    else
      let c := { c with userModeFlag := true }
      match strongestStation c.stations provider with
      | none => (c, [.setUserImage (some .ignore), .setUserImage none])
      | some station =>
        if station.evaluation = some .ok then
          let r := doNextPchScan
            { c with remainingPchArfcns := [station.arfcn], accumulatedPchResults := [] }
          (r.1, .setUserImage (some .ignore) :: r.2)
        else (c, [.setUserImage (some .ignore), .setUserImage station.evaluation])

def returnNormalisedPagings (pagings : ℕ) : ℚ := pagings / usrTimeout * 10

/-- What a finished scan tells the user. -/
def userVerdict (values : PchResult) : String × RuleResult :=
  if 0 < values.assignmentsNonHopping then ("Non hopping channel found", .critical)
  else if assignmentLimit ≤ values.assignmentsHopping ∧
      pagingsPer10sThreshold ≤ returnNormalisedPagings values.pagings then ("Scan Ok", .ok)
  else ("Paging/Assignment threshold not met", .critical)

/-- The next scan of a batch, or its results where none is left. -/
def advanceBatch (c : Controller) : Controller × List ControllerCall :=
  if c.remainingPchArfcns = [] then (c, [.setPchResults c.accumulatedPchResults])
  else c.doNextPchScan

def pchFailed (c : Controller) (arfcn : ℤ) : Controller × List ControllerCall :=
  let line := "PCH scan failed (".toList ++ Text.decimalInt arfcn ++ [')']
  let r := if c.userModeFlag then (c, [.setUserImage (some .ignore)]) else c.advanceBatch
  ({ r.1 with pchActive := false }, .logLine line :: r.2)

def integratePch (c : Controller) (arfcn : ℤ) (values : PchResult) : Controller :=
  { c with stations := c.stations.map fun station =>
      if station.arfcn = arfcn ∧ c.pchIntegration then
        { station with
          immAssNonHop := values.assignmentsNonHopping
          immAssHop := values.assignmentsHopping
          pagings := values.pagings
          pchScanDone := true }
      else station }

def pchSucceeded (c : Controller) (arfcn : ℤ) (values : PchResult) :
    Controller × List ControllerCall :=
  let line := "Finished PCH scan on ARFCN ".toList ++ Text.decimalInt arfcn
  let c := c.integratePch arfcn values
  let c := { c with
    accumulatedPchResults := c.accumulatedPchResults ++ [(arfcn, values)]
    pchScanRunning := false }
  let r := if c.userModeFlag then
      ({ c with accumulatedPchResults := c.accumulatedPchResults.dropLast },
        [log (userVerdict values).1, .setUserImage (some (userVerdict values).2)])
    else c.advanceBatch
  ({ r.1 with pchActive := false }, .logLine line :: r.2)

def pchDoneCallback (c : Controller) (arfcn : ℤ) (values : PchResult) (failed : Bool) :
    Controller × List ControllerCall :=
  if failed then c.pchFailed arfcn else c.pchSucceeded arfcn values

def evaluate (c : Controller) (verdict : ℤ → RuleResult) : Controller :=
  { c with stations := c.stations.map fun station =>
      { station with evaluation := some (verdict station.arfcn) } }

def triggerEvaluation (c : Controller) (verdict : ℤ → RuleResult) :
    Controller × List ControllerCall := (c.evaluate verdict, [log "Re-evaluation"])

def foundBaseStationCallback (c : Controller) (station : BaseStationInformation)
    (verdict : ℤ → RuleResult) : Controller × List ControllerCall :=
  let line := "found ".toList ++ station.provider ++ " (".toList ++
    Text.decimalInt station.arfcn ++ [')']
  let r := { c with stations := addStation c.stations station }.triggerEvaluation verdict
  (r.1, .logLine line :: r.2)

end Controller

/-- The lookup of one station: whether it was found, whether a database has answered, and
whether a database raised an exception. -/
structure Lookup where
  station : BaseStationInformation
  found : Bool := false
  answered : Bool := false
  raised : Bool := false
  calls : List ControllerCall := []

namespace Lookup

def ask (l : Lookup) (enabled : Bool) (name : String) (answer : Option LookupAnswer)
    (take : Lookup → LookupAnswer → Lookup) : Lookup :=
  if l.raised ∨ l.found ∨ ¬enabled then l
  else
    let line := "Looking up ".toList ++ Text.decimalInt l.station.cell ++ " on ".toList ++
      name.toList ++ ['.']
    let l := { l with calls := l.calls ++ [.logLine line] }
    match answer with
    | none => { l with raised := true }
    | some a =>
      let l := take l a
      { l with station := { l.station with dbStatus := a.status }, answered := true }

def say (l : Lookup) (line : String) : Lookup :=
  { l with calls := l.calls ++ [Controller.log line] }

def locate (l : Lookup) (db : CIDDatabases) (latitude longitude : ℚ) : Lookup :=
  { l with station := { l.station with
      latitude := latitude
      longitude := longitude
      dbProvider := db } }

def takeGoogle (l : Lookup) (a : LookupAnswer) : Lookup :=
  if a.status = .confirmed then
    { (l.say "...found.").locate .google a.latitude a.longitude with found := true }
  else l

def takeOpenCellId (l : Lookup) (a : LookupAnswer) : Lookup :=
  if a.status = .confirmed then
    { (l.say "...found.").locate .opencid a.latitude a.longitude with found := true }
  else if a.status = .approximated then
    (l.say "...approximated.").locate .opencid a.latitude a.longitude
  else l

def takeLocal (l : Lookup) (a : LookupAnswer) : Lookup :=
  if a.status = .confirmed then (l.say "...found.").locate .localDb 0 0 else l

end Lookup

namespace Controller

def lookUp (c : Controller) (answer : CIDDatabases → Option LookupAnswer)
    (station : BaseStationInformation) : Lookup :=
  ((({ station := station } : Lookup).ask c.useGoogle "Google" (answer .google)
      Lookup.takeGoogle).ask c.useOpenCellId "OpenCellID" (answer .opencid)
      Lookup.takeOpenCellId).ask c.useLocalDb "Local" (answer .localDb) Lookup.takeLocal

def lookUps (c : Controller) (answers : ℤ → CIDDatabases → Option LookupAnswer) :
    List BaseStationInformation → List Lookup
  | [] => []
  | station :: rest =>
    let l := c.lookUp (answers station.arfcn) station
    if l.raised then [l] else l :: c.lookUps answers rest

/-- The stations that were not reached keep their records. -/
def updateWithWebServices (c : Controller)
    (answers : ℤ → CIDDatabases → Option LookupAnswer) : Controller × List ControllerCall :=
  let ls := c.lookUps answers c.stations
  ({ c with stations := ls.map (·.station) ++ c.stations.drop ls.length },
    log "Starting online lookups..." :: ls.flatMap (·.calls) ++
      if ls.any (·.raised) then [] else [log "Finished online lookups."])

end Controller
end ImsiCatcher

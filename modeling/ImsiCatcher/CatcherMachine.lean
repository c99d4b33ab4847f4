import ImsiCatcher.Machine
import ImsiCatcher.SysinfoBlock

/-!
# The scanner of `catcher.c`

The file-level globals are the state of a machine whose events are the signals of layer 1,
the frames it passes up, channel confirmations and the expiry of the one timer. What the
scanner prints and what it asks of layer 1 are its outputs. The distance to the place of
the power measurement and the random draw come with the event during which they are read.
-/

namespace ImsiCatcher

inductive ScanState where
  | pm
  | sync
  | read
  | rach
  deriving DecidableEq, Repr

/-- `struct pm_info` with the two flags that are used. -/
structure PmInfo where
  flagPm : Bool := false
  flagSync : Bool := false
  rxlev : Int8 := 0

structure RachRef where
  valid : Bool := false
  cr : UInt8 := 0
  t1 : ℕ := 0
  t2 : ℕ := 0
  t3 : ℕ := 0

structure Catcher where
  state : ScanState := .pm
  timerPending : Bool := false
  pm : ℕ → PmInfo := fun _ => {}
  started : Bool := false
  syncCount : ℤ := 0
  pmIndex : ℕ := 0
  arfcn : ℕ := 0
  rachCount : ℕ := 0
  sysinfo : Gsm48Sysinfo := {}
  rachRef : RachRef := {}
  meas : RxMeasStat := {}

/-- `RACH_MAX`, and the memory that lies behind `band_range`. -/
structure CatcherConfig where
  rachMax : ℤ := 2
  behindBandRange : ℕ → ℕ × ℕ := fun _ => (0, 0)

/-- What an event handler reads from outside: the distance to the place of the power
measurement, where the receiver knows it, and a random number. -/
structure Surroundings where
  dist : Option ℤ := none
  random : UInt8 := 0

inductive Chan where
  | bcch
  | pchAgch
  | other
  deriving DecidableEq, Repr

inductive CatcherEvent where
  | pmRes (bandArfcn : ℕ) (rxLev : UInt8)
  | pmDone
  | fbsbResp (bsic : UInt8)
  | fbsbErr
  | reset
  | timer
  | dataInd (chan : Chan) (rxLevel : UInt8) (fireCrc : ℕ) (l3 : Octets)
  | chanConf (data : Octets)

inductive CatcherOut where
  | readBandRange (index : ℕ)
  | resetReq
  | pmReqRange (lower upper : ℕ)
  | fbsbReq (arfcn : ℕ)
  | ccchModeReq (combined : Bool)
  | chanRqd (cr : UInt8) (combined : Bool)
  | logPm
  | logSysinfo (s : Gsm48Sysinfo) (meas : RxMeasStat)
  | summary (line : Text)

def minRxlev : ℤ := -106
def maxDist : ℤ := 2000

def bandRange (cfg : CatcherConfig) (i : ℕ) : ℕ × ℕ :=
  [(0, 124), (512, 890), (955, 1023), (0, 0)].getD i (cfg.behindBandRange i)

/-- The level and the ARFCN of the first strongest entry that was measured and not synced. -/
def strongestUnsynced (pm : ℕ → PmInfo) : ℤ × ℕ :=
  (List.range 1024).foldl (fun best i =>
    if (pm i).flagPm ∧ ¬(pm i).flagSync ∧ best.1 < (pm i).rxlev.toInt then ((pm i).rxlev.toInt, i)
    else best) (-128, 0xffff)

namespace Catcher

/-- `start_pm`. After the last band it calls `start_sync`. -/
def startPm (cfg : CatcherConfig) (startSync : Catcher → Catcher × List CatcherOut)
    (c : Catcher) : Catcher × List CatcherOut :=
  let c := { c with state := .pm }
  let band := bandRange cfg c.pmIndex
  if band.1 = 0 ∧ band.2 = 0 then
    let r := startSync c
    (r.1, [.readBandRange c.pmIndex, .summary "Measurement done".toList, .logPm] ++ r.2)
  else
    (c, [.readBandRange c.pmIndex,
      .summary ("Measure from ".toList ++ Text.decimal band.1 ++ " to ".toList ++
        Text.decimal band.2), .resetReq, .pmReqRange band.1 band.2])

def distStr (dist : Option ℤ) : Text :=
  match dist with
  | some d => "  dist ".toList ++ Text.decimalInt d
  | none => []

/-- `start_sync`. The `start_pm` it calls measures band 0 and does not come back here. -/
def startSync (cfg : CatcherConfig) (env : Surroundings) (c : Catcher) :
    Catcher × List CatcherOut :=
  let best := strongestUnsynced c.pm
  let c := { c with arfcn := best.2 }
  if env.dist.getD 0 > maxDist ∨ best.2 = 0xffff ∨ best.1 < minRxlev then
    startPm cfg (fun c => (c, [])) { c with pm := fun _ => {}, pmIndex := 0, syncCount := 0 }
  else
    let pm := fun i => if i = best.2 then { c.pm i with flagSync := true } else c.pm i
    ({ c with
        pm := pm
        syncCount := c.syncCount - 1
        sysinfo := { arfcn := best.2 }
        state := .sync },
      [.summary ("Sync ARFCN ".toList ++ Text.decimal best.2 ++ " (rxlev ".toList ++
        Text.decimalInt best.1 ++ ", ".toList ++ Text.decimalInt c.syncCount ++
        " syncs left)".toList ++ distStr env.dist), .resetReq, .fbsbReq best.2])

def startTimer (c : Catcher) : Catcher := { c with timerPending := true }

def stopTimer (c : Catcher) : Catcher := { c with timerPending := false }

def startRach (cfg : CatcherConfig) (env : Surroundings) (c : Catcher) :
    Catcher × List CatcherOut :=
  if (c.rachCount : ℤ) = cfg.rachMax then
    let r := c.startSync cfg env
    (r.1, .logSysinfo c.sysinfo c.meas :: r.2)
  else
    let cr := if c.sysinfo.neci then env.random &&& 0x0f ||| 0x01
      else env.random &&& 0x1f ||| 0xe0
    (startTimer { c with
        state := .rach
        rachRef := { c.rachRef with valid := false, cr := cr } },
      [.chanRqd cr (c.sysinfo.ccchConf = 1)])

def timeoutCb (cfg : CatcherConfig) (env : Surroundings) (c : Catcher) :
    Catcher × List CatcherOut :=
  match c.state with
  | .read => c.startSync cfg env
  | .rach => startRach cfg env { c with rachCount := c.rachCount + 1 }
  | _ => (c, [])

def taResult (cfg : CatcherConfig) (env : Surroundings) (ta : UInt8) (c : Catcher) :
    Catcher × List CatcherOut :=
  let c := c.stopTimer
  let r := c.startSync cfg env
  (r.1, (if ta = 0xff then [.summary "Got assignment reject".toList] else []) ++
    .logSysinfo c.sysinfo c.meas :: r.2)

/-- `match_ra` on the request reference at offset `i` of a message. -/
def matchRa (c : Catcher) (msg : Octets) (i : ℕ) : Bool :=
  c.rachRef.valid ∧ octet msg i = c.rachRef.cr ∧
    bits (octet msg (i + 1)) 3 5 = c.rachRef.t1 ∧ bits (octet msg (i + 2)) 0 5 = c.rachRef.t2 ∧
    (bits (octet msg (i + 1)) 0 3 <<< 3) ||| bits (octet msg (i + 2)) 5 3 = c.rachRef.t3

def immAss (cfg : CatcherConfig) (env : Surroundings) (c : Catcher) (msg : Octets) :
    Catcher × List CatcherOut :=
  if c.state ≠ .rach then (c, [])
  else if c.matchRa msg 7 then c.taResult cfg env (octet msg 10)
  else (c, [])

def immAssExt (cfg : CatcherConfig) (env : Surroundings) (c : Catcher) (msg : Octets) :
    Catcher × List CatcherOut :=
  if c.state ≠ .rach then (c, [])
  else if c.matchRa msg 7 then c.taResult cfg env (octet msg 10)
  else if c.matchRa msg 14 then c.taResult cfg env (octet msg 17)
  else (c, [])

def immAssRej (cfg : CatcherConfig) (env : Surroundings) (c : Catcher) (msg : Octets) :
    Catcher × List CatcherOut :=
  if c.state ≠ .rach then (c, [])
  else if c.matchRa msg 4 ∨ c.matchRa msg 8 ∨ c.matchRa msg 12 ∨ c.matchRa msg 16 then
    c.taResult cfg env 0xff
  else (c, [])

def pchAgch (cfg : CatcherConfig) (env : Surroundings) (c : Catcher) (msg : Octets) :
    Catcher × List CatcherOut :=
  match messageType msg with
  | 0x3f => c.immAss cfg env msg
  | 0x39 => c.immAssExt cfg env msg
  | 0x3a => c.immAssRej cfg env msg
  | _ => (c, [])

end Catcher

/-- The test of `new_sysinfo`. -/
def Gsm48Sysinfo.complete (s : Gsm48Sysinfo) : Bool :=
  s.si1 && s.si2 && s.si3 && s.si4 && (!s.nbExtIndSi2 || s.si2bis) && (!s.si2terInd || s.si2ter)

/-- What `bcch` makes of a message: nothing where the length is not 23, the type is not
known or the message is the one already held. -/
def Gsm48Sysinfo.bcchDecode (s : Gsm48Sysinfo) (msg : Octets) : Option Gsm48Sysinfo :=
  if msg.length ≠ 23 then none
  else match messageType msg with
    | 0x19 => if msg = s.si1Msg then none else some (s.gsm48DecodeSysinfo1 msg)
    | 0x1a => if msg = s.si2Msg then none else some (s.gsm48DecodeSysinfo2 msg)
    | 0x02 => if msg = s.si2bMsg then none else some (s.gsm48DecodeSysinfo2bis msg)
    | 0x03 => if msg = s.si2tMsg then none else some (s.gsm48DecodeSysinfo2ter msg)
    | 0x1b => if msg = s.si3Msg then none else some (s.gsm48DecodeSysinfo3 msg)
    | 0x1c => if msg = s.si4Msg then none else some (s.gsm48DecodeSysinfo4 msg)
    | 0x1d => if msg.take 18 = s.si5Msg then none else some (s.gsm48DecodeSysinfo5 msg)
    | 0x05 => if msg.take 18 = s.si5bMsg then none else some (s.gsm48DecodeSysinfo5bis msg)
    | 0x06 => if msg.take 18 = s.si5tMsg then none else some (s.gsm48DecodeSysinfo5ter msg)
    | 0x1e => if msg.take 18 = s.si6Msg then none else some (s.gsm48DecodeSysinfo6 msg)
    | _ => none

namespace Catcher

def newSysinfo (cfg : CatcherConfig) (env : Surroundings) (c : Catcher) :
    Catcher × List CatcherOut :=
  if c.sysinfo.complete then startRach cfg env { c.stopTimer with rachCount := 0 }
  else (c.startTimer, [])

def bcch (cfg : CatcherConfig) (env : Surroundings) (c : Catcher) (msg : Octets) :
    Catcher × List CatcherOut :=
  match c.sysinfo.bcchDecode msg with
  | none => (c, [])
  | some s =>
    let r := newSysinfo cfg env { c with sysinfo := s }
    (r.1, (if messageType msg = 0x1b then [.ccchModeReq (s.ccchConf = 1)] else []) ++ r.2)

def unitDataInd (cfg : CatcherConfig) (env : Surroundings) (c : Catcher) (chan : Chan)
    (l3 : Octets) : Catcher × List CatcherOut :=
  if c.state ≠ .read ∧ c.state ≠ .rach then (c, [])
  else match chan with
    | .pchAgch => c.pchAgch cfg env l3
    | .bcch => c.bcch cfg env l3
    | .other => (c, [])

/-- `rx_ph_data_ind` of `l1ctl.c` counts every frame, and passes it up unless its check
sum failed. -/
def rxPhDataInd (cfg : CatcherConfig) (env : Surroundings) (c : Catcher) (chan : Chan)
    (rxLevel : UInt8) (fireCrc : ℕ) (l3 : Octets) : Catcher × List CatcherOut :=
  let c := { c with meas :=
    { frames := c.meas.frames + 1, rxlev := c.meas.rxlev + rxLevel.toUInt32 } }
  if 2 ≤ fireCrc then (c, []) else c.unitDataInd cfg env chan l3

/-- `chan_conf`, as `rcv_cch` calls it. The reference starts behind the first octet of
the data, and the length check does not count that octet. -/
def chanConf (c : Catcher) (data : Octets) : Catcher :=
  let ref := data.drop 1
  if c.state = .rach ∧ 3 ≤ data.length then
    { c with rachRef := { c.rachRef with
        valid := true
        t1 := bits (octet ref 1) 3 5
        t2 := bits (octet ref 2) 0 5
        t3 := bits (octet ref 2) 5 3 ||| (bits (octet ref 1) 0 3 <<< 3) } }
  else c

def pmRes (c : Catcher) (bandArfcn : ℕ) (rxLev : UInt8) : Catcher :=
  let index := bandArfcn &&& 0x3ff
  let rxlev := (rxLev - 110).toInt8
  { c with
    pm := fun i => if i = index then { c.pm i with flagPm := true, rxlev := rxlev } else c.pm i
    syncCount := if minRxlev ≤ rxlev.toInt then c.syncCount + 1 else c.syncCount }

/-- One event. An expiry of the timer needs a timer that runs. -/
def step (cfg : CatcherConfig) (c : Catcher) : CatcherEvent × Surroundings →
    Catcher × List CatcherOut
  | (.pmRes bandArfcn rxLev, _) => (c.pmRes bandArfcn rxLev, [])
  | (.pmDone, env) => startPm cfg (startSync cfg env) { c with pmIndex := c.pmIndex + 1 }
  | (.fbsbResp bsic, _) =>
    (startTimer { c with
      sysinfo := { c.sysinfo with bsic := bsic.toNat }
      state := .read
      meas := {} }, [])
  | (.fbsbErr, env) => c.startSync cfg env
  | (.reset, env) =>
    if c.started then (c, [])
    else startPm cfg (startSync cfg env)
      { c with started := true, pm := fun _ => {}, pmIndex := 0, syncCount := 0 }
  | (.timer, env) => if c.timerPending then c.stopTimer.timeoutCb cfg env else (c, [])
  | (.dataInd chan rxLevel fireCrc l3, env) => c.rxPhDataInd cfg env chan rxLevel fireCrc l3
  | (.chanConf data, _) => (c.chanConf data, [])

end Catcher

def catcher (cfg : CatcherConfig) :
    Machine Catcher (CatcherEvent × Surroundings) CatcherOut := ⟨Catcher.step cfg⟩

end ImsiCatcher

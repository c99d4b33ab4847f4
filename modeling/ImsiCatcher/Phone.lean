import ImsiCatcher.L1ctl

/-!
# Layer 1 of the phone, in idle mode

The state that the requests of the scanner set up and that the callbacks of the TDMA scheduler
work on: power measurement, the search for the frequency and the synchronisation burst, the
reading of BCCH and CCCH, and the RACH burst. The main loop takes requests and executes
completions; the frame interrupt runs the callbacks in between. What the DSP found comes with the
event. The bursts of one callback set are one event, at its last response.
-/

namespace ImsiCatcher

/-- The callback sets that are in the TDMA scheduler: `pm_sched_set`, `fb_sched_set` with its
mode, and `sb_sched_set`. -/
inductive TdmaSet where
  | pm (arfcn : ℕ)
  | fb (mode : ℕ)
  | sb
  deriving DecidableEq, Repr

def TdmaSet.pmArfcn : TdmaSet → Option ℕ
  | pm arfcn => some arfcn
  | _ => none

def TdmaSet.fbMode : TdmaSet → Option ℕ
  | fb mode => some mode
  | _ => none

/-- The tasks of idle mode, `MF_TASK_*`. -/
inductive MframeTask where
  | bcchNorm
  | ccch
  | ccchComb
  deriving DecidableEq, Repr

/-- `l1s.serving_cell` -/
structure L1CellInfo where
  arfcn : ℕ := 0
  bsic : UInt8 := 0
  ccchMode : UInt8 := 0

/-- `l1s.pm`, with the message that is being filled. -/
structure L1sPm where
  mode : UInt8 := 0
  arfcnNext : ℕ := 0
  arfcnEnd : ℕ := 0
  msg : Option Octets := none

/-- `struct l1a_fb_state`; `attempt` is that of `last_fb`. -/
structure L1aFbState where
  bandArfcn : ℕ := 0
  freqErrThresh1 : ℕ := 0
  freqErrThresh2 : ℕ := 0
  flags : UInt8 := 0
  initialFreqErr : ℤ := 0
  fbRetries : ℕ := 0
  afcRetries : ℕ := 0
  attempt : ℕ := 0
  bsic : UInt8 := 0
  fn : UInt32 := 0
  snr : ℕ := 0

structure LastRach where
  fn : UInt32 := 0
  bandArfcn : ℕ := 0

/-- Sets of normal bursts and of the RACH are counted; they may outlast their task and a reset. -/
structure Phone where
  tdma : List TdmaSet := []
  mframe : MframeTask → Bool := fun _ => false
  servingCell : L1CellInfo := {}
  rfArfcn : ℕ := 871
  pm : L1sPm := {}
  fbs : L1aFbState := {}
  complFb : Bool := false
  complRach : Bool := false
  ta : UInt8 := 0
  txPower : UInt8 := 7
  rachRa : UInt8 := 0
  rachEvents : ℕ := 0
  nbSets : MframeTask → ℕ := fun _ => 0
  rachSets : ℕ := 0
  lastRach : LastRach := {}

/-- The room behind the header of a message of `l1ctl_msgb_alloc`, with the header. -/
def l3MsgSize : ℕ := 204
def fb0RetryCount : ℕ := 3
def afcRetryCount : ℕ := 30

/-- How many events `sched_gsmtime` holds. -/
def schedGsmtimeEvents : ℕ := 16

structure SchBurst where
  bsic : UInt8
  fn : UInt32
  snr : ℕ

structure NormalBlock where
  fn : UInt32
  rxLevel : UInt8
  snr : UInt8
  numBiterr : UInt8
  fireCrc : UInt8
  data : Octets
  length_data : data.length = 23

/-- What happens besides requests: the main loop executes completions, and the frame interrupt
runs a callback. -/
inductive PhoneEvent where
  | compl
  | pmResp (rxlev : UInt8)
  | fbdetResp (attempt : Fin 13) (found : Option (ℤ × ℕ))
  | sbdetResp (attempt : Fin 3) (found : Option SchBurst)
  | mframeSchedule (task : MframeTask)
  | schedGsmtimeExecute
  | nbResp (task : MframeTask) (block : NormalBlock)
  | rachResp (fn : UInt32)

namespace Phone

def l1sReset (p : Phone) : Phone :=
  { p with txPower := 7, rachEvents := 0, mframe := fun _ => false, tdma := [] }

def mframeEnable (p : Phone) (task : MframeTask) : Phone :=
  { p with mframe := fun t => t = task || p.mframe t }

def mframeDisable (p : Phone) (task : MframeTask) : Phone :=
  { p with mframe := fun t => t ≠ task && p.mframe t }

def enableCcch (p : Phone) : Phone :=
  if p.servingCell.ccchMode = ccchModeCombined then p.mframeEnable .ccchComb
  else if p.servingCell.ccchMode = ccchModeNonCombined then p.mframeEnable .ccch
  else p

/-! ### Requests -/

/-- `l1ctl_rx_fbsb_req` with `l1s_fbsb_req`; all of the flags are those of a search that begins
with the frequency burst. -/
def l1ctlRxFbsbReq (p : Phone) (msg : Octets) : Phone :=
  if msg.length < 12 then p
  else
    let p := p.l1sReset
    { p with
      servingCell := { p.servingCell with ccchMode := octet msg 15 }
      fbs := { p.fbs with
        bandArfcn := ntohs msg 4
        freqErrThresh1 := ntohs msg 8
        freqErrThresh2 := ntohs msg 10
        flags := octet msg 13
        initialFreqErr := 0
        fbRetries := 0
        afcRetries := 0 }
      tdma := if octet msg 13 &&& (l1ctlFbsbFFb0 ||| l1ctlFbsbFFb1) ≠ 0 then p.tdma ++ [.fb 0]
        else if octet msg 13 &&& l1ctlFbsbFSb ≠ 0 then p.tdma ++ [.sb] else p.tdma }

/-- `l1ctl_rx_pm_req` with `l1s_pm_test` -/
def l1ctlRxPmReq (p : Phone) (msg : Octets) : Phone :=
  let pm := if octet msg 4 = 1 then
    { p.pm with mode := 1, arfcnNext := ntohs msg 8, arfcnEnd := ntohs msg 10 } else p.pm
  { p with pm := pm, tdma := p.tdma ++ [.pm pm.arfcnNext] }

def l1ctlRxResetReq (p : Phone) (msg : Octets) : Phone × List Octets :=
  if octet msg 4 = l1ctlResTFull then (p.l1sReset, [l1ctlTxReset l1ctlResetConf (octet msg 4)])
  else if octet msg 4 = 2 then
    ({ p with rachEvents := 0 }, [l1ctlTxReset l1ctlResetConf (octet msg 4)])
  else (p, [])

def l1ctlRxCcchModeReq (p : Phone) (msg : Octets) : Phone × List Octets :=
  let p := { p with servingCell := { p.servingCell with ccchMode := octet msg 4 } }
  (((p.mframeDisable .ccchComb).mframeDisable .ccch).enableCcch,
    [l1ctlTxCcchModeConf (octet msg 4)])

/-- `l1ctl_rx_rach_req` with `l1a_rach_req`, but for the frame that it is scheduled for. -/
def l1ctlRxRachReq (p : Phone) (msg : Octets) : Phone :=
  { p with
    rachRa := octet msg 8
    rachEvents := if p.rachEvents < schedGsmtimeEvents then p.rachEvents + 1 else p.rachEvents
    lastRach := {} }

/-- `l1a_l23_handler`, for one message of the queue. -/
def l1aL23Handler (p : Phone) (msg : Octets) : Phone × List Octets :=
  let type := octet msg 0
  if msg.length < 4 then (p, [])
  else if type = l1ctlFbsbReq then (p.l1ctlRxFbsbReq msg, [])
  else if type = l1ctlParamReq then ({ p with ta := octet msg 8, txPower := octet msg 9 }, [])
  else if type = l1ctlRachReq then (p.l1ctlRxRachReq msg, [])
  else if type = l1ctlPmReq then (p.l1ctlRxPmReq msg, [])
  else if type = l1ctlResetReq then p.l1ctlRxResetReq msg
  else if type = l1ctlCcchModeReq then p.l1ctlRxCcchModeReq msg
  else (p, [])

/-! ### Power measurement -/

/-- `l1s_pm_resp`, for the set that measures `arfcn`. -/
def l1sPmResp (p : Phone) (arfcn : ℕ) (rxlev : UInt8) : Phone × List Octets :=
  let p := { p with rfArfcn := arfcn, tdma := p.tdma.erase (.pm arfcn) }
  let msg := p.pm.msg.getD (l1ctlMsgbAlloc l1ctlPmConf)
  let flushed := if l3MsgSize - msg.length < 4 then [msg] else []
  let msg := if l3MsgSize - msg.length < 4 then l1ctlMsgbAlloc l1ctlPmConf else msg
  let msg := msg ++ pmEntry (arfcn, rxlev)
  if p.pm.mode = 1 then
    if p.pm.arfcnNext ≠ p.pm.arfcnEnd then
      let next := (p.pm.arfcnNext + 1) &&& 0xfbff
      ({ p with pm := { p.pm with msg := some msg, arfcnNext := next }
                tdma := p.tdma ++ [.pm next] }, flushed)
    else
      ({ p with pm := { p.pm with msg := none } },
        flushed ++ [msg.set 1 (octet msg 1 ||| l1ctlFDone)])
  else ({ p with pm := { p.pm with msg := some msg } }, flushed)

/-! ### The search for a cell -/

/-- The search is over without a cell. -/
def searchFailed (p : Phone) : Phone :=
  { p with fbs := { p.fbs with attempt := 13 }, complFb := true }

/-- `l1s_fbdet_cmd` and `l1s_fbdet_resp`, at the attempt that found a burst or at the last. -/
def l1sFbdetResp (p : Phone) (mode attempt : ℕ) (found : Option (ℤ × ℕ)) : Phone :=
  let p := { p with rfArfcn := p.fbs.bandArfcn, tdma := [] }
  match found with
  | none =>
    if p.fbs.fbRetries < fb0RetryCount then
      { p with fbs := { p.fbs with fbRetries := p.fbs.fbRetries + 1 }, tdma := [.fb 0] }
    else p.searchFailed
  | some (freqDiff, snr) =>
    let p := { p with fbs := { p.fbs with
      attempt := attempt
      snr := snr
      initialFreqErr := if p.fbs.initialFreqErr = 0 then freqDiff else p.fbs.initialFreqErr } }
    if mode = 0 then
      if p.fbs.flags &&& l1ctlFbsbFFb1 ≠ 0 then
        if freqDiff.natAbs < p.fbs.freqErrThresh1 ∧ 0 < snr then { p with tdma := [.fb 1] }
        else if p.fbs.afcRetries < afcRetryCount then
          { p with fbs := { p.fbs with afcRetries := p.fbs.afcRetries + 1 }, tdma := [.fb 0] }
        else p.searchFailed
      else { p with complFb := true }
    else if p.fbs.flags &&& l1ctlFbsbFSb ≠ 0 then
      if freqDiff.natAbs < p.fbs.freqErrThresh2 ∧ 0 < snr then
        { p with servingCell := { p.servingCell with arfcn := p.rfArfcn }, tdma := [.sb] }
      else { p with tdma := [.fb 1] }
    else { p with complFb := true }

/-- `l1s_sbdet_cmd` and `l1s_sbdet_resp`, at the attempt that decoded a burst or at the last. -/
def l1sSbdetResp (p : Phone) (attempt : ℕ) (found : Option SchBurst) : Phone :=
  let p := { p with fbs := { p.fbs with bsic := 0, fn := 0 }, tdma := p.tdma.erase .sb }
  match found with
  | none => p.searchFailed
  | some sb =>
    let p := { p with
      fbs := { p.fbs with attempt := attempt, bsic := sb.bsic, fn := sb.fn, snr := sb.snr }
      servingCell := { p.servingCell with bsic := sb.bsic, arfcn := p.rfArfcn }
      tdma := if attempt ≠ 2 then [] else p.tdma }
    { (p.mframeEnable .bcchNorm).enableCcch with complFb := true }

/-! ### BCCH, CCCH and RACH -/

/-- `mframe_task2chan_nr` of the timeslot 0. -/
def task2chanNr : MframeTask → UInt8
  | .bcchNorm => 0x80
  | .ccch | .ccchComb => 0x90

/-- `mframe_schedule`, at a frame of the task. -/
def mframeSchedule (p : Phone) (task : MframeTask) : Phone :=
  if p.mframe task then
    { p with nbSets := fun t => if t = task then p.nbSets t + 1 else p.nbSets t }
  else p

/-- `l1s_nb_resp` behind the fourth burst; in idle mode the ARFCN is that of the serving cell. -/
def l1sNbResp (p : Phone) (task : MframeTask) (b : NormalBlock) : List Octets :=
  [dataInd { chanNr := task2chanNr task, bandArfcn := p.servingCell.arfcn, frameNr := b.fn.toNat,
             rxLevel := b.rxLevel, snr := b.snr, numBiterr := b.numBiterr,
             fireCrc := b.fireCrc } b.data]

def schedGsmtimeExecute (p : Phone) : Phone :=
  if 0 < p.rachEvents then
    { p with rachEvents := p.rachEvents - 1, rachSets := p.rachSets + 1 }
  else p

/-- `l1s_tx_rach_resp` -/
def l1sTxRachResp (p : Phone) (fn : UInt32) : Phone :=
  { p with
    rachSets := p.rachSets - 1
    lastRach := { fn := fn, bandArfcn := p.servingCell.arfcn }
    complRach := true }

/-! ### Completions -/

/-- `l1ctl_fbsb_resp`; the error is sent in 16 bits, and of the SNR the integer part. -/
def l1ctlFbsbResp (p : Phone) (res : UInt8) : Octets :=
  fbsbConf p.fbs.fn.toNat (UInt8.ofNat (p.fbs.snr / 1024)) p.fbs.bandArfcn
    (p.fbs.initialFreqErr % 65536).toNat res p.fbs.bsic

def l1aFbCompl (p : Phone) : Phone × List Octets :=
  if 13 ≤ p.fbs.attempt then (p, [p.l1ctlFbsbResp 255])
  else ({ p with servingCell := { p.servingCell with arfcn := p.rfArfcn } }, [p.l1ctlFbsbResp 0])

/-- `l1a_compl_execute` -/
def l1aComplExecute (p : Phone) : Phone × List Octets :=
  let rach := if p.complRach then [rachConf p.lastRach.fn.toNat p.lastRach.bandArfcn] else []
  let r := if p.complFb then p.l1aFbCompl else (p, [])
  ({ r.1 with complFb := false, complRach := false }, r.2 ++ rach)

/-- A callback runs where its set is in the scheduler. -/
def step (p : Phone) : PhoneEvent → Phone × List Octets
  | .compl => p.l1aComplExecute
  | .pmResp rxlev =>
    match p.tdma.findSome? TdmaSet.pmArfcn with
    | some arfcn => p.l1sPmResp arfcn rxlev
    | none => (p, [])
  | .fbdetResp attempt found =>
    match p.tdma.findSome? TdmaSet.fbMode with
    | some mode => (p.l1sFbdetResp mode attempt found, [])
    | none => (p, [])
  | .sbdetResp attempt found =>
    if .sb ∈ p.tdma then (p.l1sSbdetResp attempt found, []) else (p, [])
  | .mframeSchedule task => (p.mframeSchedule task, [])
  | .schedGsmtimeExecute => (p.schedGsmtimeExecute, [])
  | .nbResp task block =>
    if 0 < p.nbSets task then
      ({ p with nbSets := fun t => if t = task then p.nbSets t - 1 else p.nbSets t },
        p.l1sNbResp task block)
    else (p, [])
  | .rachResp fn => if 0 < p.rachSets then (p.l1sTxRachResp fn, []) else (p, [])

end Phone

/-- `layer1_init` tells that the phone is up. -/
def phoneBoot : Octets := l1ctlTxReset l1ctlResetInd l1ctlResTBoot

end ImsiCatcher

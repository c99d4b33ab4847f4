import ImsiCatcher.Phone
import ImsiCatcher.PrimRach
import ImsiCatcher.SchedGsmtime
import ImsiCatcher.TdmaCalendar

/-!
# The frame interrupt of the phone, on a cell

Once the phone is on a cell, the frame interrupt carries the time on, executes what the TDMA
scheduler has for the frame, and schedules the sets of the multiframe tasks and of the one-shot
events two frames ahead. Reading the BCCH and the CCCH takes four normal bursts a block, each with a
command one frame before it and a response one frame behind it, so that the sets of
consecutive blocks overlap; they share one message.
-/

namespace ImsiCatcher

/-- The callbacks that are scheduled on a cell, and the null pointer of an empty item. -/
inductive L1sCb where
  | null
  | nbCmd
  | nbResp
  | txRachCmd
  | txRachResp
  | winSetup
  | winCleanup
  deriving DecidableEq, Repr

def nbSchedSet : TdmaItemSet L1sCb :=
  [some { cb := .nbCmd, p2 := 0, flags := tdmaIflgDt }, none,
   some { cb := .nbCmd, p2 := 1, flags := tdmaIflgDt }, none,
   some { cb := .nbResp, prio := -4, p2 := 0 },
   some { cb := .nbCmd, p2 := 2, flags := tdmaIflgDt }, none,
   some { cb := .nbResp, prio := -4, p2 := 1 },
   some { cb := .nbCmd, p2 := 3, flags := tdmaIflgDt }, none,
   some { cb := .nbResp, prio := -4, p2 := 2 }, none,
   some { cb := .nbResp, prio := -4, p2 := 3 }, none]

def rachSchedSetUl : TdmaItemSet L1sCb :=
  [some { cb := .txRachCmd, prio := 3, p1 := 1, flags := tdmaIflgDt }, none, none,
   some { cb := .txRachResp, prio := -4, p1 := 1 }, none]

def l1sWinInit : List (TdmaOp L1sCb) :=
  [.schedule 0 { cb := .winSetup, prio := -2 }, .schedule 0 { cb := .winCleanup, prio := 9 }]

/-! ### Multiframe tasks -/

/-- `struct mframe_sched_item`; in idle mode all sets are `nb_sched_set`. -/
structure MframeSchedItem where
  modulo : ℕ := 51
  frameNr : ℕ
  flags : UInt16 := 0

def schedSetForTask : MframeTask → List MframeSchedItem
  | .bcchNorm => [{ frameNr := 2 }]
  | .ccch =>
    [{ frameNr := 6 }, { frameNr := 12 }, { frameNr := 16 }, { frameNr := 22 }, { frameNr := 26 },
     { frameNr := 32 }, { frameNr := 36 }, { frameNr := 42 }, { frameNr := 46 }]
  | .ccchComb => [{ frameNr := 6 }, { frameNr := 12 }, { frameNr := 16 }]

/-- `enum mframe_task` -/
def MframeTask.id : MframeTask → UInt16
  | bcchNorm => 0
  | ccch => 2
  | ccchComb => 3

def mframeTask2chanNr (mft ts : UInt8) : UInt8 :=
  let cbits : UInt8 := if mft = 0 ∨ mft = 1 then 0x10 else if mft = 2 ∨ mft = 3 then 0x12 else 0
  (cbits <<< 3) ||| (ts &&& 7)

structure MframeScheduler where
  tasks : MframeTask → Bool := fun _ => false
  tasksTgt : MframeTask → Bool := fun _ => false
  safeFn : ℕ := 4294967295

def MframeScheduler.enable (m : MframeScheduler) (task : MframeTask) : MframeScheduler :=
  { m with tasksTgt := fun t => t = task || m.tasksTgt t }

def MframeScheduler.disable (m : MframeScheduler) (task : MframeTask) : MframeScheduler :=
  { m with tasksTgt := fun t => t ≠ task && m.tasksTgt t }

/-- Where the loops of `mframe_schedule` stand: the next safe time to queue a DSP command, the TDMA
scheduler, and what was done. -/
structure MframeRun where
  safeFn : ℕ
  sched : TdmaScheduler L1sCb
  acts : List (TdmaAct L1sCb) := []

/-- The next safe time behind a set that was scheduled with the result `rv`. -/
def safeFnBehind (fn safeFn : ℕ) (rv : ℤ) : ℕ :=
  let sum := ((fn + (rv - 2)) % 4294967296).toNat
  let next := if gsmMaxFn ≤ sum then sum - gsmMaxFn else sum
  if safeFn < next ∨ gsmMaxFn ≤ safeFn then next else safeFn

/-- `mframe_schedule_set`, for one item. -/
def mframeScheduleItem (fn : ℕ) (task : MframeTask) (r : MframeRun) (si : MframeSchedItem) :
    MframeRun :=
  if (fn + scheduleAhead) % si.modulo = si.frameNr % si.modulo then
    let op := TdmaOp.scheduleSet 1 nbSchedSet (task.id ||| (si.flags <<< 8))
    { safeFn := safeFnBehind fn r.safeFn (r.sched.perform op).1
      sched := (r.sched.perform op).2
      acts := r.acts ++ [.did op (r.sched.perform op).1] }
  else r

def mframeScheduleSet (fn : ℕ) (r : MframeRun) (task : MframeTask) : MframeRun :=
  (schedSetForTask task).foldl (mframeScheduleItem fn task) r

/-- The tasks that `mframe_schedule` goes on with. The difference of the frame numbers has the sign
of C. -/
def MframeScheduler.nextTasks (m : MframeScheduler) (fn : ℕ) : MframeTask → Bool :=
  let fnDiff : ℤ := ((m.safeFn : ℤ) - fn).bmod 4294967296
  if fnDiff ≤ 0 ∨ gsmMaxFn / 2 ≤ fnDiff ∨ gsmMaxFn ≤ m.safeFn then m.tasksTgt
  else fun task => m.tasks task && m.tasksTgt task

/-- `mframe_schedule` -/
def MframeScheduler.schedule (m : MframeScheduler) (fn : ℕ) (sched : TdmaScheduler L1sCb) :
    MframeScheduler × MframeRun :=
  let tasks := m.nextTasks fn
  let r := ([.bcchNorm, .ccch, .ccchComb].filter tasks).foldl (mframeScheduleSet fn)
    { safeFn := m.safeFn, sched := sched }
  ({ m with tasks := tasks, safeFn := r.safeFn }, r)

/-! ### The callbacks -/

/-- The read page of the DSP in a frame: its task, the burst that it is of, and what was received.
The measurements are those of the block. -/
structure DspRead where
  taskD : UInt16
  burstD : UInt8
  block : NormalBlock

/-- What the callbacks read and change. Of the message of `rxnb` it matters whether it is there. -/
structure L1sRest where
  currentTime : GsmTime
  nextTime : GsmTime
  servingCell : L1CellInfo
  dsp : Option DspRead := none
  rxnbMsg : Bool := false
  rachRa : UInt8 := 0
  lastRach : LastRach := {}
  complRach : Bool := false
  nullWrite : Bool := false
  forL2 : List Octets := []

/-- The result of a subtraction of frame numbers, in 32 bits. -/
def fnBefore (fn frames : ℕ) : ℕ := (fn + 4294967296 - frames) % 4294967296

def l1sNbCmd (burstId : UInt8) (r : L1sRest) : L1sRest :=
  if burstId = 1 then { r with rxnbMsg := true } else r

/-- `l1s_nb_resp`; without its message it would write through a null pointer. -/
def l1sNbResp (burstId : UInt8) (p3 : UInt16) (r : L1sRest) : L1sRest :=
  match r.dsp with
  | none => r
  | some dsp =>
    if dsp.taskD = 0 then r
    else if dsp.burstD ≠ burstId then r
    else if dsp.burstD = 3 then
      if r.rxnbMsg then
        { r with
          rxnbMsg := false
          forL2 := r.forL2 ++
            [dataInd { chanNr := mframeTask2chanNr p3.toUInt8 0, bandArfcn := r.servingCell.arfcn,
                       frameNr := fnBefore r.currentTime.fn 4, rxLevel := dsp.block.rxLevel,
                       snr := dsp.block.snr, numBiterr := dsp.block.numBiterr,
                       fireCrc := dsp.block.fireCrc } dsp.block.data] }
      else { r with nullWrite := true }
    else r

/-- `l1s_tx_rach_resp` -/
def l1sTxRachResp (r : L1sRest) : L1sRest :=
  { r with
    lastRach :=
      { fn := UInt32.ofNat (fnBefore r.currentTime.fn 1), bandArfcn := r.servingCell.arfcn }
    complRach := true }

/-- What a callback does to the rest; none of these calls the scheduler, and none fails. -/
def l1sCall (call : TdmaSchedCall L1sCb) (r : L1sRest) : L1sRest :=
  match call.cb with
  | .nbCmd => l1sNbCmd call.p2 r
  | .nbResp => l1sNbResp call.p2 call.p3 r
  | .txRachResp => l1sTxRachResp r
  | _ => r

def l1sReact (call : TdmaSchedCall L1sCb) (r : L1sRest) : TdmaReaction L1sCb L1sRest :=
  { rest := l1sCall call r }

/-! ### The frame interrupt -/

/-- `frameCtr` is that of `dsp_api`, with one for each interrupt. -/
structure L1s where
  tdmaSched : TdmaScheduler L1sCb := .blank .null
  mframeSched : MframeScheduler := {}
  gsmtime : SchedGsmtime L1sCb := {}
  rest : L1sRest
  frameCtr : ℕ := 0

/-- The frame interrupt, with what the DSP has for it; the main loop, which executes the completions
and takes the requests that are made on a cell. -/
inductive L1sEvent where
  | frame (dsp : DspRead)
  | compl
  | rachReq (ra : UInt8) (offset : UInt16) (combined : UInt8)
  | ccchModeReq (ccchMode : UInt8)

namespace L1s

def restAt (l : L1s) (dsp : DspRead) : L1sRest :=
  { l.rest with
    currentTime := l.rest.nextTime
    nextTime := l1sTimeInc l.rest.nextTime 1
    dsp := some dsp }

/-- What `l1_sync` schedules for its own frame. -/
def winInit (l : L1s) : List (TdmaOp L1sCb) :=
  if l.tdmaSched.flagScan &&& tdmaIflgTpu ≠ 0 then l1sWinInit else []

def l1Sync (l : L1s) (dsp : DspRead) : L1s × List (TdmaTime × TdmaAct L1sCb) :=
  let front := performAll TdmaScheduler.perform l.tdmaSched l.winInit
  let e := front.1.execute l1sReact (l.restAt dsp)
  let m := l.mframeSched.schedule e.rest.currentTime.fn e.sched
  let g := l.gsmtime.execute e.rest.currentTime.fn
  let back := performAll TdmaScheduler.perform m.2.sched
    (g.1.map fun evt => TdmaOp.scheduleSet 1 evt.si evt.p3)
  ({ tdmaSched := back.1.advance, mframeSched := m.1, gsmtime := g.2, rest := e.rest
     frameCtr := l.frameCtr + 1 },
    (front.2 ++ e.acts).map (fun act => (⟨l.frameCtr, false⟩, act)) ++
      (m.2.acts ++ back.2).map fun act => (⟨l.frameCtr, true⟩, act))

/-- `l1a_compl_execute`, with `l1a_rach_compl`. -/
def l1aComplExecute (l : L1s) : L1s :=
  { l with rest := { l.rest with
      complRach := false
      forL2 := l.rest.forL2 ++ if l.rest.complRach then
        [rachConf l.rest.lastRach.fn.toNat l.rest.lastRach.bandArfcn] else [] } }

/-- `l1a_rach_req`; every burst has the `ra` of the last request. -/
def l1aRachReq (l : L1s) (ra : UInt8) (offset : UInt16) (combined : UInt8) : L1s :=
  { l with
    gsmtime := (l.gsmtime.sched rachSchedSetUl
      (l1aRachFrame l.rest.currentTime offset (combined ≠ 0)) 0).2
    rest := { l.rest with rachRa := ra, lastRach := {} } }

def l1ctlRxCcchModeReq (l : L1s) (ccchMode : UInt8) : L1s :=
  { l with
    mframeSched :=
      let m := (l.mframeSched.disable .ccchComb).disable .ccch
      if ccchMode = ccchModeCombined then m.enable .ccchComb
      else if ccchMode = ccchModeNonCombined then m.enable .ccch
      else m
    rest := { l.rest with
      servingCell := { l.rest.servingCell with ccchMode := ccchMode }
      forL2 := l.rest.forL2 ++ [l1ctlTxCcchModeConf ccchMode] } }

def step (l : L1s) : L1sEvent → L1s × List (TdmaTime × TdmaAct L1sCb)
  | .frame dsp => l.l1Sync dsp
  | .compl => (l.l1aComplExecute, [])
  | .rachReq ra offset combined => (l.l1aRachReq ra offset combined, [])
  | .ccchModeReq ccchMode => (l.l1ctlRxCcchModeReq ccchMode, [])

def machine : Machine L1s L1sEvent (TdmaTime × TdmaAct L1sCb) := ⟨step⟩

def onCell (fn : ℕ) (p : Phone) : L1s where
  mframeSched := { tasksTgt := p.mframe }
  rest :=
    { currentTime := gsmFn2gsmtime fn
      nextTime := l1sTimeInc (gsmFn2gsmtime fn) 1
      servingCell := p.servingCell
      rachRa := p.rachRa
      lastRach := p.lastRach
      complRach := p.complRach }

end L1s

end ImsiCatcher

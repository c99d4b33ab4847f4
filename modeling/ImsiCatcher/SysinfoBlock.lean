import ImsiCatcher.SystemInformation
import ImsiCatcher.Text
import Mathlib.Data.Int.Notation
import Mathlib.Data.List.Basic

/-!
# The block that `log_sysinfo` prints

The names of `networks.c` are a table handed in as a list, without the terminating entry
of the C array. The block is text: a head line, eight parameter lines, one line for each
received message, an end line and an empty line.
-/

namespace ImsiCatcher

/-- An entry of `gsm_networks`; a negative `mnc` marks a country. -/
structure GsmNetwork where
  mcc : ℕ
  mnc : ℤ
  name : Text

def gsmPrintMcc (mcc : ℕ) : Text := (Text.hexPadded 3 mcc).take 3

def gsmPrintMnc (mnc : ℕ) : Text :=
  if mnc &&& 0xf000 ≠ 0 ∨ mnc &&& 0x0f00 > 0x0900 ∨ mnc &&& 0x00f0 > 0x0090 ∨
      (mnc &&& 0x000f > 0x0009 ∧ mnc &&& 0x000f < 0x000f) then
    ("0x".toList ++ Text.hexPadded 3 mnc).take 5
  else if mnc &&& 0x000f = 0x000f then (Text.hexPadded 2 (mnc >>> 4)).take 5
  else (Text.hexPadded 3 mnc).take 5

def gsmGetMcc (networks : List GsmNetwork) (mcc : ℕ) : Text :=
  match networks.find? fun n => n.mnc < 0 ∧ n.mcc = mcc with
  | some n => n.name
  | none => gsmPrintMcc mcc

def gsmGetMnc (networks : List GsmNetwork) (mcc mnc : ℕ) : Text :=
  match networks.find? fun n => n.mcc = mcc ∧ n.mnc = (mnc : ℤ) with
  | some n => n.name
  | none => gsmPrintMnc mnc

/-- The sums of `struct rx_meas_stat` that the mean reception level is taken from. -/
structure RxMeasStat where
  frames : UInt32 := 0
  rxlev : UInt32 := 0

/-- `int8_t rxlev = meas->rxlev / meas->frames - 110`. The C division traps when no frame
was counted. -/
def RxMeasStat.meanRxlev (meas : RxMeasStat) : ℤ :=
  (meas.rxlev / meas.frames - 110).toUInt8.toInt8.toInt

def arfcnPcs : ℕ := 0x8000

/-- Whether the cell talks about DCS or PCS. -/
def myGsmReferPcs (arfcn : ℕ) (s : Gsm48Sysinfo) : Bool :=
  if arfcn &&& arfcnPcs ≠ 0 then true else if s.si1 then s.bandInd else false

def myIndex2arfcn (index : ℕ) : ℕ :=
  if 1024 ≤ index then (index - 1024 + 512) ||| arfcnPcs else index

namespace Gsm48Sysinfo

def neighbourArfcn (s : Gsm48Sysinfo) (arfcn i : ℕ) : ℕ :=
  myIndex2arfcn (if myGsmReferPcs arfcn s ∧ 512 ≤ i ∧ i ≤ 810 then i - 512 + 1024 else i)

/-- The numbers that the neighbour loop prints when `arfcn` is the serving cell. -/
def neighboursBeside (s : Gsm48Sysinfo) (arfcn : ℕ) : List ℕ :=
  ((List.range 1024).filter fun i =>
    s.freq i &&& freqTypeNcell ≠ 0 ∧ s.neighbourArfcn arfcn i ≠ arfcn).map
      fun i => s.neighbourArfcn arfcn i &&& 1023

def printedNeighbours (s : Gsm48Sysinfo) : List ℕ := s.neighboursBeside s.arfcn

end Gsm48Sysinfo

def logLine (label : String) (value : Text) : Text := label.toList ++ value ++ ['\n']

def logFrame (tag : String) (data : Octets) : Text :=
  logLine tag ((data.take 23).flatMap fun o => ' ' :: Text.hexPadded 2 o.toNat)

def neighboursLine (l : List ℕ) : Text :=
  logLine "Neighbours: " (l.flatMap fun a => Text.decimal a ++ [' '])

def frameLines (s : Gsm48Sysinfo) : List Text :=
  (if s.si1 then [logFrame "SI1: " s.si1Msg] else []) ++
  (if s.si3 then [logFrame "SI3: " s.si3Msg] else []) ++
  (if s.si4 then [logFrame "SI4: " s.si4Msg] else []) ++
  (if s.si2 then [logFrame "SI2: " s.si2Msg] else []) ++
  (if s.si2ter then [logFrame "SI2ter: " s.si2tMsg] else []) ++
  (if s.si2bis then [logFrame "SI2bis: " s.si2bMsg] else [])

def sysinfoLines (networks : List GsmNetwork) (s : Gsm48Sysinfo) (meas : RxMeasStat) :
    List Text :=
  [logLine "[SysInfo]" [],
    logLine "Country: " (gsmGetMcc networks s.mcc),
    logLine "Provider: " (gsmGetMnc networks s.mcc s.mnc),
    logLine "ARFCN: " (Text.decimal s.arfcn),
    logLine "Cell ID: " (Text.decimal s.cellId),
    logLine "LAC: " (Text.decimal s.lac),
    logLine "BSIC: " (Text.decimal (s.bsic >>> 3) ++ [','] ++ Text.decimal (s.bsic &&& 7)),
    logLine "rxlev: " (Text.decimalInt meas.meanRxlev),
    neighboursLine s.printedNeighbours] ++
  frameLines s ++ [logLine "[EndInfo]" [], logLine "" []]

def logSysinfo (networks : List GsmNetwork) (s : Gsm48Sysinfo) (meas : RxMeasStat) : Text :=
  (sysinfoLines networks s meas).flatten

end ImsiCatcher

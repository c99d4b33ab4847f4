import ImsiCatcher.NetworkOrder

/-!
# The messages of L1CTL

The layer 2 program and the phone talk in packed structures behind a common header. Both ends
are here as the octets that one writes and the other reads: the `l1ctl_tx_*` functions of the
host and of the phone, and the `rx_*` functions that `l1ctl_recv` of the host calls. What the
phone does with a request is in the module about the phone.

Message buffers are zeroed when they are allocated, so padding and fields that are not set are
zero. The host's checks for short messages subtract pointers that are not set, and find no message
short.
-/

namespace ImsiCatcher

/-! ### Message types -/

def l1ctlFbsbReq : UInt8 := 1
def l1ctlFbsbConf : UInt8 := 2
def l1ctlDataInd : UInt8 := 3
def l1ctlRachReq : UInt8 := 4
def l1ctlResetInd : UInt8 := 7
def l1ctlPmReq : UInt8 := 8
def l1ctlPmConf : UInt8 := 9
def l1ctlRachConf : UInt8 := 12
def l1ctlResetReq : UInt8 := 13
def l1ctlResetConf : UInt8 := 14
def l1ctlCcchModeReq : UInt8 := 16
def l1ctlCcchModeConf : UInt8 := 17
def l1ctlParamReq : UInt8 := 19

def l1ctlFDone : UInt8 := 1

def l1ctlResTBoot : UInt8 := 0
def l1ctlResTFull : UInt8 := 1

def ccchModeNone : UInt8 := 0
def ccchModeNonCombined : UInt8 := 1
def ccchModeCombined : UInt8 := 2

def l1ctlFbsbFFb0 : UInt8 := 1
def l1ctlFbsbFFb1 : UInt8 := 2
def l1ctlFbsbFSb : UInt8 := 4
def l1ctlFbsbFFb01sb : UInt8 := 7

/-! ### The host writes -/

def osmoL1Alloc (msgType : UInt8) : Octets := [msgType, 0, 0, 0]

def l1ctlTxFbsbReq (arfcn : ℕ) (flags : UInt8) (timeout : ℕ) (syncInfoIdx ccchMode : UInt8) :
    Octets :=
  osmoL1Alloc l1ctlFbsbReq ++ htons arfcn ++ htons timeout ++ htons (11000 - 1000) ++
    htons (1000 - 200) ++ [3, flags, syncInfoIdx, ccchMode]

def l1ctlTxCcchModeReq (ccchMode : UInt8) : Octets :=
  osmoL1Alloc l1ctlCcchModeReq ++ [ccchMode, 0, 0, 0]

/-- `l1ctl_tx_param_req`, behind an empty `struct l1ctl_info_ul`. -/
def l1ctlTxParamReq (ta txPower : UInt8) : Octets :=
  osmoL1Alloc l1ctlParamReq ++ [0, 0, 0, 0] ++ [ta, txPower, 0, 0]

/-- `l1ctl_tx_rach_req`, behind an empty `struct l1ctl_info_ul`. -/
def l1ctlTxRachReq (ra : UInt8) (offset : ℕ) (combined : UInt8) : Octets :=
  osmoL1Alloc l1ctlRachReq ++ [0, 0, 0, 0] ++ [ra, combined] ++ htons offset

def l1ctlTxPmReqRange (arfcnFrom arfcnTo : ℕ) : Octets :=
  osmoL1Alloc l1ctlPmReq ++ [1, 0, 0, 0] ++ htons arfcnFrom ++ htons arfcnTo

def l1ctlTxResetReq (type : UInt8) : Octets := osmoL1Alloc l1ctlResetReq ++ [type, 0, 0, 0]

/-! ### The phone writes -/

def l1ctlMsgbAlloc (msgType : UInt8) : Octets := [msgType, 0, 0, 0]

structure L1ctlInfoDl where
  chanNr : UInt8 := 0
  linkId : UInt8 := 0
  bandArfcn : ℕ := 0
  frameNr : ℕ := 0
  rxLevel : UInt8 := 0
  snr : UInt8 := 0
  numBiterr : UInt8 := 0
  fireCrc : UInt8 := 0
  deriving DecidableEq, Repr

def L1ctlInfoDl.octets (dl : L1ctlInfoDl) : Octets :=
  [dl.chanNr, dl.linkId] ++ htons dl.bandArfcn ++ htonl dl.frameNr ++
    [dl.rxLevel, dl.snr, dl.numBiterr, dl.fireCrc]

structure L1ctlInfoDl.InRange (dl : L1ctlInfoDl) : Prop where
  bandArfcn : dl.bandArfcn < 65536
  frameNr : dl.frameNr < 4294967296

def l1CreateL2Msg (msgType : UInt8) (fn : ℕ) (snr : UInt8) (arfcn : ℕ) : Octets :=
  l1ctlMsgbAlloc msgType ++
    ({ frameNr := fn, snr := snr, bandArfcn := arfcn } : L1ctlInfoDl).octets

def l1ctlTxReset (msgType resetType : UInt8) : Octets :=
  l1ctlMsgbAlloc msgType ++ [resetType, 0, 0, 0]

def l1ctlTxCcchModeConf (ccchMode : UInt8) : Octets :=
  l1ctlMsgbAlloc l1ctlCcchModeConf ++ [ccchMode, 0, 0, 0]

/-- What `l1ctl_fbsb_resp` queues; the frequency error is given by its two octets. -/
def fbsbConf (fn : ℕ) (snr : UInt8) (arfcn initialFreqErr : ℕ) (res bsic : UInt8) : Octets :=
  l1CreateL2Msg l1ctlFbsbConf fn snr arfcn ++ htons initialFreqErr ++ [res, bsic]

/-- What `l1a_rach_compl` queues. -/
def rachConf (fn arfcn : ℕ) : Octets := l1CreateL2Msg l1ctlRachConf fn 0 arfcn

/-- What `l1s_nb_resp` queues. -/
def dataInd (dl : L1ctlInfoDl) (data : Octets) : Octets :=
  l1ctlMsgbAlloc l1ctlDataInd ++ dl.octets ++ data

/-- `struct l1ctl_pm_conf`, one measurement. -/
def pmEntry (m : ℕ × UInt8) : Octets := htons m.1 ++ [m.2, 0]

/-- What `l1s_pm_resp` fills and queues. -/
def pmConf (done : Bool) (entries : List (ℕ × UInt8)) : Octets :=
  [l1ctlPmConf, if done then l1ctlFDone else 0, 0, 0] ++ entries.flatMap pmEntry

/-! ### The host reads -/

/-- What `l1ctl_recv` makes of a message: signals of `SS_L1CTL`, and primitives for LAPDm. -/
inductive L1Signal where
  | pmRes (bandArfcn : ℕ) (rxLev : UInt8)
  | pmDone
  | fbsbResp (bandArfcn : ℕ) (snr bsic : UInt8)
  | fbsbErr (bandArfcn : ℕ)
  | reset
  | ccchModeConf (ccchMode : UInt8)
  | phData (dl : L1ctlInfoDl) (data : Octets)
  | phRach (fn : ℕ) (msg : Octets)
  deriving DecidableEq, Repr

/-- `struct l1ctl_info_dl` behind the header. -/
def infoDl (msg : Octets) : L1ctlInfoDl where
  chanNr := octet msg 4
  linkId := octet msg 5
  bandArfcn := ntohs msg 6
  frameNr := ntohl msg 8
  rxLevel := octet msg 12
  snr := octet msg 13
  numBiterr := octet msg 14
  fireCrc := octet msg 15

def rxL1FbsbConf (msg : Octets) : L1Signal :=
  let dl := infoDl msg
  if octet msg 18 ≠ 0 then .fbsbErr dl.bandArfcn
  else .fbsbResp dl.bandArfcn dl.snr (octet msg 19)

/-- The loop of `rx_l1_pm_conf`, from behind the header to the tail. -/
def rxL1PmConf : Octets → List L1Signal
  | [] => []
  | [high] => [.pmRes (ntohs [high] 0) 0]
  | [high, low] => [.pmRes (ntohs [high, low] 0) 0]
  | [high, low, pm] => [.pmRes (ntohs [high, low] 0) pm]
  | high :: low :: pm :: _ :: rest => .pmRes (ntohs [high, low] 0) pm :: rxL1PmConf rest

def l1ctlRecv (msg : Octets) : List L1Signal :=
  let type := octet msg 0
  if type = l1ctlFbsbConf then [rxL1FbsbConf msg]
  else if type = l1ctlDataInd then [.phData (infoDl msg) (msg.drop 16)]
  else if type = l1ctlResetInd ∨ type = l1ctlResetConf then [.reset]
  else if type = l1ctlPmConf then
    rxL1PmConf (msg.drop 4) ++ if octet msg 1 &&& l1ctlFDone ≠ 0 then [.pmDone] else []
  else if type = l1ctlRachConf then [.phRach (infoDl msg).frameNr msg]
  else if type = l1ctlCcchModeConf then [.ccchModeConf (octet msg 4)]
  else []

/-! ### What the host makes of what the phone wrote -/

theorem ntohs_pair {n : ℕ} (hn : n < 65536) : ntohs (htons n) 0 = n := by
  have hread := ntohs_htons hn []
  rwa [List.append_nil] at hread

theorem infoDl_octets {dl : L1ctlInfoDl} (hdl : dl.InRange) (msgType : UInt8) (rest : Octets) :
    infoDl (l1ctlMsgbAlloc msgType ++ dl.octets ++ rest) = dl := by
  have harfcn : ntohs (l1ctlMsgbAlloc msgType ++ dl.octets ++ rest) 6 = dl.bandArfcn :=
    ntohs_htons hdl.bandArfcn []
  have hfn : ntohl (l1ctlMsgbAlloc msgType ++ dl.octets ++ rest) 8 = dl.frameNr :=
    ntohl_htonl hdl.frameNr []
  rw [infoDl, harfcn, hfn]
  rfl

theorem infoDl_l1CreateL2Msg {fn arfcn : ℕ} (hfn : fn < 4294967296) (harfcn : arfcn < 65536)
    (msgType snr : UInt8) (rest : Octets) :
    infoDl (l1CreateL2Msg msgType fn snr arfcn ++ rest) =
      { frameNr := fn, snr := snr, bandArfcn := arfcn } :=
  infoDl_octets ⟨harfcn, hfn⟩ msgType rest

theorem l1ctlRecv_fbsbConf {fn arfcn : ℕ} (hfn : fn < 4294967296) (harfcn : arfcn < 65536)
    (snr : UInt8) (initialFreqErr : ℕ) (res bsic : UInt8) :
    l1ctlRecv (fbsbConf fn snr arfcn initialFreqErr res bsic) =
      [if res ≠ 0 then .fbsbErr arfcn else .fbsbResp arfcn snr bsic] := by
  have hinfo : infoDl (fbsbConf fn snr arfcn initialFreqErr res bsic) =
      { frameNr := fn, snr := snr, bandArfcn := arfcn } := by
    rw [fbsbConf, List.append_assoc]
    exact infoDl_l1CreateL2Msg hfn harfcn l1ctlFbsbConf snr _
  change [rxL1FbsbConf (fbsbConf fn snr arfcn initialFreqErr res bsic)] = _
  rw [rxL1FbsbConf, hinfo]
  rfl

theorem l1ctlRecv_reset {msgType : UInt8} (resetType : UInt8)
    (h : msgType = l1ctlResetInd ∨ msgType = l1ctlResetConf) :
    l1ctlRecv (l1ctlTxReset msgType resetType) = [.reset] := by
  rcases h with rfl | rfl <;> rfl

theorem l1ctlRecv_ccchModeConf (ccchMode : UInt8) :
    l1ctlRecv (l1ctlTxCcchModeConf ccchMode) = [.ccchModeConf ccchMode] := rfl

theorem rxL1PmConf_entries {entries : List (ℕ × UInt8)} (h : ∀ m ∈ entries, m.1 < 65536) :
    rxL1PmConf (entries.flatMap pmEntry) = entries.map fun m => .pmRes m.1 m.2 := by
  induction entries with
  | nil => rfl
  | cons m entries ih =>
    rw [List.forall_mem_cons] at h
    have hfirst : rxL1PmConf (pmEntry m ++ entries.flatMap pmEntry) =
        .pmRes (ntohs (htons m.1) 0) m.2 :: rxL1PmConf (entries.flatMap pmEntry) := rfl
    rw [List.flatMap_cons, hfirst, ntohs_pair h.1, ih h.2, List.map_cons]

/-- A result for each measurement, in order, and the end where it is marked. -/
theorem l1ctlRecv_pmConf (done : Bool) {entries : List (ℕ × UInt8)}
    (h : ∀ m ∈ entries, m.1 < 65536) :
    l1ctlRecv (pmConf done entries) =
      (entries.map fun m => .pmRes m.1 m.2) ++ if done then [.pmDone] else [] := by
  have hflag : octet (pmConf done entries) 1 &&& l1ctlFDone ≠ 0 ↔ done = true := by
    cases done
    · change (0 : UInt8) &&& l1ctlFDone ≠ 0 ↔ _
      decide
    · change l1ctlFDone &&& l1ctlFDone ≠ 0 ↔ _
      decide
  change rxL1PmConf (entries.flatMap pmEntry) ++
    (if octet (pmConf done entries) 1 &&& l1ctlFDone ≠ 0 then [L1Signal.pmDone] else []) = _
  rw [rxL1PmConf_entries h, if_congr hflag rfl rfl]

end ImsiCatcher

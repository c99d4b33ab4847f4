import ImsiCatcher.CatcherMachine
import ImsiCatcher.GsmTime
import ImsiCatcher.L1ctl
import ImsiCatcher.Tlv

/-!
# From layer 1 up to the scanner

LAPDm packs what comes from layer 1 into RSL messages, and the scanner takes these apart again.
Frames on the BCCH and the CCCH go up as they are; on other channels LAPDm has procedures of its
own, and nothing of them reaches the scanner's state. A request of the scanner for the RACH goes
down the same way. The scanner on messages of the phone is the machine of the signals that the
messages carry.
-/

namespace ImsiCatcher

/-! ### The common parts of RSL -/

def abisRslMdiscRll : UInt8 := 0x02
def abisRslMdiscComChan : UInt8 := 0x0c
def abisRslMdiscTransp : UInt8 := 0x01

def rslMtUnitDataInd : UInt8 := 0x0b
def rslMtChanRqd : UInt8 := 0x13
def rslMtChanConf : UInt8 := 0x18

def rslIeChanNr : UInt8 := 0x01
def rslIeLinkIdent : UInt8 := 0x02
def rslIeL3Info : UInt8 := 0x0b
def rslIeMsPower : UInt8 := 0x0d
def rslIeAccessDelay : UInt8 := 0x11
def rslIeReqReference : UInt8 := 0x13

/-- The channel types of `rsl.c`, `RSL_CHAN_*`. -/
inductive RslChan where
  | bmACCHs
  | lmACCHs
  | sdcch4ACCH
  | sdcch8ACCH
  | bcch
  | rach
  | pchAgch
  deriving DecidableEq, Repr

def RslChan.code : RslChan → UInt8
  | bmACCHs => 0x08
  | lmACCHs => 0x10
  | sdcch4ACCH => 0x20
  | sdcch8ACCH => 0x40
  | bcch => 0x80
  | rach => 0x88
  | pchAgch => 0x90

/-- `rsl_dec_chan_nr` with all that it finds: the type, the sub-channel and the timeslot. -/
def rslDecChan (chanNr : UInt8) : Option (RslChan × UInt8 × UInt8) :=
  let timeslot := chanNr &&& 0x7
  if chanNr &&& 0xf8 = 0x08 then some (.bmACCHs, 0, timeslot)
  else if chanNr &&& 0xf0 = 0x10 then some (.lmACCHs, (chanNr >>> 3) &&& 0x1, timeslot)
  else if chanNr &&& 0xe0 = 0x20 then some (.sdcch4ACCH, (chanNr >>> 3) &&& 0x3, timeslot)
  else if chanNr &&& 0xc0 = 0x40 then some (.sdcch8ACCH, (chanNr >>> 3) &&& 0x7, timeslot)
  else if chanNr &&& 0xf8 = 0x80 then some (.bcch, 0, timeslot)
  else if chanNr &&& 0xf8 = 0x88 then some (.rach, 0, timeslot)
  else if chanNr &&& 0xf8 = 0x90 then some (.pchAgch, 0, timeslot)
  else none

def rslAttTlvdef : TlvDefinition := fun tag =>
  if tag ∈ [0x01, 0x02, 0x03, 0x04, 0x09, 0x0d, 0x0e, 0x11, 0x14, 0x18, 0x1b, 0x1c, 0x1e, 0x25,
      0x28, 0x29, 0x2d, 0x2e, 0x33, 0x35, 0x37, 0x3b, 0x40, 0xe2, 0xf2, 0xf4, 0xf9, 0xfb, 0xfc,
      0xfe] then .tv
  else if tag ∈ [0x05, 0x06, 0x07, 0x0c, 0x10, 0x12, 0x15, 0x16, 0x19, 0x1a, 0x1f, 0x20, 0x21,
      0x22, 0x23, 0x26, 0x27, 0x2a, 0x2b, 0x2c, 0x2f, 0x30, 0x31, 0x32, 0x34, 0x36, 0x38, 0x39,
      0x3a, 0x3c] then .tlv
  else if tag ∈ [0x08, 0x0a, 0x0f, 0x17, 0xe1, 0xf1, 0xf3, 0xf8, 0xfa] then .fixed 2
  else if tag = 0x0b then .tl16v
  else if tag = 0x13 then .fixed 3
  else if tag = 0x24 then .fixed 23
  else if tag ∈ [0xf0, 0xf5] then .fixed 4
  else if tag = 0xfd then .fixed 8
  else .none

/-- A channel number, a request reference, and an L3 message that a second one replaces. -/
def chanElements : List (UInt8 × Octets) :=
  [(rslIeChanNr, [0x88]), (rslIeReqReference, [0xe5, 0x12, 0x34]), (rslIeL3Info, [0x06, 0x3f]),
    (rslIeL3Info, [0x06, 0x39, 0x00])]

theorem tlvParse_put_chanElements :
    (tlvParse rslAttTlvdef (msgbPutAll rslAttTlvdef [] chanElements)).2 = some 4 ∧
      ∀ tag, ((tlvParse rslAttTlvdef (msgbPutAll rslAttTlvdef [] chanElements)).1 tag).map
        (TlvPEntry.value (msgbPutAll rslAttTlvdef [] chanElements)) =
          chanElements.reverse.lookup tag := by
  refine tlvParse_put rslAttTlvdef chanElements ?_
  rw [chanElements, List.forall_mem_cons, List.forall_mem_cons, List.forall_mem_cons,
    List.forall_mem_singleton]
  exact ⟨⟨rfl, by decide⟩, ⟨rfl, by decide⟩, ⟨by decide, by decide⟩, ⟨by decide, by decide⟩⟩

/-- `rsl_rll_push_l3` with a transparent header; the length of the L3 message has eight bits. -/
def rslRllPushL3 (msgType chanNr linkId : UInt8) (l3 : Octets) : Octets :=
  [abisRslMdiscRll ||| abisRslMdiscTransp, msgType, rslIeChanNr, chanNr, rslIeLinkIdent, linkId] ++
    rslIeL3Info :: htons (l3.length % 256) ++ l3

/-! ### LAPDm -/

/-- `l2_ph_data_ind` on the channels of format Bbis. -/
def l2PhDataInd (dl : L1ctlInfoDl) (data : Octets) : Option Octets :=
  let cbits := dl.chanNr >>> 3
  if cbits = 0x10 ∨ cbits = 0x12 then
    some (rslRllPushL3 rslMtUnitDataInd dl.chanNr dl.linkId data)
  else none

/-- `struct gsm48_req_ref` of a time. -/
def gsm48ReqRef (ra : UInt8) (tm : GsmTime) : Octets :=
  [ra, UInt8.ofNat (tm.t3 / 8 % 8 + tm.t1 % 32 * 8), UInt8.ofNat (tm.t2 % 32 + tm.t3 % 8 * 32)]

/-- `l2_ph_chan_conf`: the header, the tag and the reference are written over the headroom, but
pushed one octet short, so that the reference ends on the first octet of the message. -/
def l2PhChanConf (fn : ℕ) (msg : Octets) : Octets :=
  [abisRslMdiscComChan, rslMtChanConf, rslIeChanNr, RslChan.rach.code] ++
    rslIeReqReference :: gsm48ReqRef 0 (gsmFn2gsmtime fn) ++ msg.drop 1

/-- What layer 1 is asked for, as `l1ctl_ph_prim_cb` puts it into messages. -/
def phRachReq (ra : UInt8) (offset : ℕ) (combined ta txPower : UInt8) : List Octets :=
  [l1ctlTxParamReq ta txPower, l1ctlTxRachReq ra offset combined]

/-- `lapdm_rslms_recvmsg` down to `rslms_rx_chan_rqd`, for a request for the RACH. -/
def rslmsRxChanRqd (rsl : Octets) : List Octets :=
  if rsl.length < 12 then []
  else if octet rsl 4 ≠ rslIeReqReference then []
  else if octet rsl 8 ≠ rslIeAccessDelay then []
  else if octet rsl 10 ≠ rslIeMsPower then []
  else
    phRachReq (octet rsl 5) ((octet rsl 6 &&& 0x7f).toNat * 256 + (octet rsl 7).toNat)
      (octet rsl 6 >>> 7) (0 - octet rsl 9) (octet rsl 11)

/-- The request that `start_rach` makes. -/
def chanRqd (cr : UInt8) (combined : Bool) : Octets :=
  [abisRslMdiscComChan, rslMtChanRqd, rslIeChanNr, RslChan.rach.code, rslIeReqReference, cr,
    (if combined then 1 else 0 : UInt8) <<< 7, 0, rslIeAccessDelay, 0, rslIeMsPower, 0]

/-! ### The scanner -/

def scanChan (chanNr : UInt8) : Chan :=
  match rslDecChan chanNr with
  | some (.pchAgch, _, _) => .pchAgch
  | some (.bcch, _, _) => .bcch
  | _ => .other

namespace Catcher

/-- `rcv_rll` with `unit_data_ind`. -/
def rcvRll (cfg : CatcherConfig) (env : Surroundings) (c : Catcher) (rsl : Octets) :
    Catcher × List CatcherOut :=
  if octet rsl 1 = rslMtUnitDataInd then
    match tlvpVal (tlvParse rslAttTlvdef (rsl.drop 6)).1 rslIeL3Info with
    | none => (c, [])
    | some ofs => c.unitDataInd cfg env (scanChan (octet rsl 3)) (rsl.drop (6 + ofs))
  else (c, [])

def rcvCch (c : Catcher) (rsl : Octets) : Catcher :=
  if octet rsl 1 = rslMtChanConf then c.chanConf (rsl.drop 4) else c

def rcvRsl (cfg : CatcherConfig) (env : Surroundings) (c : Catcher) (rsl : Octets) :
    Catcher × List CatcherOut :=
  if octet rsl 0 &&& 0xfe = abisRslMdiscRll then c.rcvRll cfg env rsl
  else if octet rsl 0 &&& 0xfe = abisRslMdiscComChan then (c.rcvCch rsl, [])
  else (c, [])

/-- `signal_cb` for the signals, and the way up through LAPDm for the primitives.
`rx_ph_data_ind` counts a frame before it looks at the check sum. -/
def rcvSignal (cfg : CatcherConfig) (c : Catcher) : L1Signal × Surroundings →
    Catcher × List CatcherOut
  | (.pmRes bandArfcn rxLev, env) => c.step cfg (.pmRes bandArfcn rxLev, env)
  | (.pmDone, env) => c.step cfg (.pmDone, env)
  | (.fbsbResp _ _ bsic, env) => c.step cfg (.fbsbResp bsic, env)
  | (.fbsbErr _, env) => c.step cfg (.fbsbErr, env)
  | (.reset, env) => c.step cfg (.reset, env)
  | (.ccchModeConf _, _) => (c, [])
  | (.phData dl data, env) =>
    let c := { c with meas :=
      { frames := c.meas.frames + 1, rxlev := c.meas.rxlev + dl.rxLevel.toUInt32 } }
    if 2 ≤ dl.fireCrc.toNat then (c, [])
    else match l2PhDataInd dl data with
      | some rsl => c.rcvRsl cfg env rsl
      | none => (c, [])
  | (.phRach fn msg, env) => c.rcvRsl cfg env (l2PhChanConf fn msg)

end Catcher
end ImsiCatcher

import ImsiCatcher.Octets
import ImsiCatcher.Text

/-!
# What `pch_scan` prints for a message on the CCCH

`gsm48_rx_ccch` and the functions it calls, with the text that the log calls write to the
standard error in the colour of their category. A message is handed over as it was received,
beginning with its L2 pseudo length; its length is the L3 length. The mobile allocation of a
hopping channel, which nothing reads, is left out.
-/

namespace ImsiCatcher

/-! ### The log -/

def drrColor : Text := "\x1b[1;34m".toList

def resetColor : Text := "\x1b[0;m".toList

/-- `LOGP` for `DRR`, called in the given line of `pch_scan.c`. -/
def logp (line : ℕ) (text : Text) : Text :=
  drrColor ++ "<0001> pch_scan.c:".toList ++ Text.decimal line ++ [' '] ++ text ++ resetColor

/-- `LOGPC` for `DRR`. -/
def logpc (text : Text) : Text := drrColor ++ text ++ resetColor

/-! ### Assignments -/

/-- `rsl_dec_chan_nr`: the time slot and the subchannel. The variable of the subchannel keeps
its value where the channel number is of no known type. -/
def rslDecChanNr (chanNr subch : UInt8) : ℕ × ℕ :=
  (bits chanNr 0 3,
    if chanNr &&& 0xf8 = 0x08 then 0
    else if chanNr &&& 0xf0 = 0x10 then bits chanNr 3 1
    else if chanNr &&& 0xe0 = 0x20 then bits chanNr 3 2
    else if chanNr &&& 0xc0 = 0x40 then bits chanNr 3 3
    else if chanNr &&& 0xf8 = 0x80 then 0
    else if chanNr &&& 0xf8 = 0x88 then 0
    else if chanNr &&& 0xf8 = 0x90 then 0
    else subch.toNat)

/-- The bit of the channel description that tells a hopping channel. -/
def hoppingBit (m : Octets) : ℕ := bits (octet m 5) 4 1

/-- `gsm48_rx_imm_ass`, where the variable of the subchannel begins as `subch`. -/
def gsm48RxImmAss (subch : UInt8) (m : Octets) : Text :=
  if octet m 3 &&& 0xf0 ≠ 0 then []
  else
    let chan := rslDecChanNr (octet m 4) subch
    let ra := Text.hexPadded 2 (octet m 7).toNat
    let chanNr := Text.hexPadded 2 (octet m 4).toNat
    let tsc := Text.decimal (bits (octet m 5) 5 3)
    (if hoppingBit m = 0 then
      let arfcn := (octet m 6).toNat ||| (bits (octet m 5) 0 2 <<< 8)
      logp 227 ("GSM48 IMM ASS NONHOP (ra=0x".toList ++ ra ++ ", chan_nr=0x".toList ++ chanNr ++
        ", ARFCN=".toList ++ Text.decimal arfcn ++ ", TS=".toList ++ Text.decimal chan.1 ++
        ", SS=".toList ++ Text.decimal chan.2 ++ ", TSC=".toList ++ tsc ++ ") ".toList)
    else
      let hsn := bits (octet m 6) 0 6
      let maio := bits (octet m 6) 6 2 ||| (bits (octet m 5) 0 4 <<< 2)
      logp 249 ("GSM48 IMM ASS HOP (ra=0x".toList ++ ra ++ ", chan_nr=0x".toList ++ chanNr ++
        ", HSN=".toList ++ Text.decimal hsn ++ ", MAIO=".toList ++ Text.decimal maio ++
        ", TS=".toList ++ Text.decimal chan.1 ++ ", SS=".toList ++ Text.decimal chan.2 ++
        ", TSC=".toList ++ tsc ++ ") ".toList)) ++
    logpc ['\n']

/-! ### Paging -/

def gsmMiTypeMask : UInt8 := 0x07
def gsmMiTypeNone : UInt8 := 0x00
def gsmMiTypeImsi : UInt8 := 0x01
def gsmMiTypeImei : UInt8 := 0x02
def gsmMiTypeImeisv : UInt8 := 0x03
def gsmMiTypeTmsi : UInt8 := 0x04
def gsm48IeMobileId : UInt8 := 0x17
def gsm48MiSize : ℕ := 32

def pagPrintMode (mode : ℕ) : String :=
  match mode with
  | 0 => "Normal paging"
  | 1 => "Extended paging"
  | 2 => "Paging reorganization"
  | 3 => "Same as before"
  | _ => "invalid"

def chanNeed (need : ℕ) : String :=
  match need with
  | 0 => "any"
  | 1 => "sdch"
  | 2 => "tch/f"
  | 3 => "tch/h"
  | _ => "invalid"

def miTypeToString (type : UInt8) : String :=
  if type = gsmMiTypeNone then "none"
  else if type = gsmMiTypeImsi then "imsi"
  else if type = gsmMiTypeImei then "imei"
  else if type = gsmMiTypeImeisv then "imeisv"
  else if type = gsmMiTypeTmsi then "tmsi"
  else "invalid"

def osmoBcd2char (bcd : ℕ) : Char :=
  if bcd < 0xa then Char.ofNat ('0'.toNat + bcd) else Char.ofNat ('A'.toNat + (bcd - 0xa))

/-- The digits of the octet at `i` of an identity of `len` octets; an even number of digits
leaves the last half octet out. -/
def miDigits (mi : Octets) (len i : ℕ) : Text :=
  osmoBcd2char (bits (octet mi i) 0 4) ::
    if i ≠ len - 1 ∨ bits (octet mi 0) 3 1 = 1 then [osmoBcd2char (bits (octet mi i) 4 4)] else []

/-- `gsm48_mi_to_string` into a buffer of `GSM48_MI_SIZE`: the digits that fit, two at a time.
An identity of more than sixteen octets leaves no room for the terminating zero; the text is
taken to end there all the same. -/
def gsm48MiToString (mi : Octets) (len : ℕ) : Text :=
  let type := octet mi 0 &&& gsmMiTypeMask
  if type = gsmMiTypeTmsi then
    if len = 5 ∧ octet mi 0 = 0xf0 ||| gsmMiTypeTmsi then
      Text.decimal (ntohs mi 1 * 65536 + ntohs mi 3)
    else []
  else if type = gsmMiTypeImsi ∨ type = gsmMiTypeImei ∨ type = gsmMiTypeImeisv then
    osmoBcd2char (bits (octet mi 0) 4 4) ::
      ((List.range' 1 (len - 1)).filter fun i => 1 + 2 * (i - 1) + 2 < gsm48MiSize).flatMap
        (miDigits mi len)
  else []

def logPaging (line : ℕ) (label : String) (m : Octets) (need target id : Text) : Text :=
  logp line (label.toList ++ ": ".toList ++ (pagPrintMode (bits (octet m 3) 0 2)).toList ++
    " chan ".toList ++ need ++ " to ".toList ++ target ++ " M(".toList ++ id ++ ") \n".toList)

def cneed1 (m : Octets) : Text := (chanNeed (bits (octet m 3) 4 2)).toList

def cneed2 (m : Octets) : Text := (chanNeed (bits (octet m 3) 6 2)).toList

/-- A TMSI as it is printed: the octets at `i`, read as a number of the host. -/
def tmsiText (m : Octets) (i : ℕ) : Text :=
  "0x".toList ++ Text.hex ((octet m i).toNat + 256 * (octet m (i + 1)).toNat +
    65536 * (octet m (i + 2)).toNat + 16777216 * (octet m (i + 3)).toNat)

/-- A line about a mobile identity whose first octet is at `i`. -/
def logIdentity (line : ℕ) (label : String) (m : Octets) (need : Text) (i len : ℕ) : Text :=
  logPaging line label m need (miTypeToString (octet m i &&& gsmMiTypeMask)).toList
    (gsm48MiToString (m.drop i) len)

def gsm48RxPagingP1 (m : Octets) : Text :=
  if m.length < 4 + 2 then []
  else
    let len1 := (octet m 4).toNat
    if m.length < 4 + 2 + len1 then []
    else
      (if octet m 5 &&& gsmMiTypeMask ≠ gsmMiTypeNone then
        logIdentity 359 "Paging1" m (cneed1 m) 5 len1
      else []) ++
      if m.length < 4 + 2 + len1 + 3 then []
      else
        let tag := octet m (4 + 2 + len1)
        let len2 := (octet m (4 + 2 + len1 + 1)).toNat
        if tag = gsm48IeMobileId ∧
            octet m (4 + 2 + len1 + 2) &&& gsmMiTypeMask ≠ gsmMiTypeNone then
          if m.length < 4 + 2 + len1 + 3 + len2 then []
          else logIdentity 380 "Paging2" m (cneed2 m) (4 + 2 + len1 + 2) len2
        else []

def gsm48RxPagingP2 (m : Octets) : Text :=
  if m.length < 12 then []
  else
    logPaging 401 "Paging1" m (cneed1 m) "TMSI".toList (tmsiText m 4) ++
    logPaging 404 "Paging2" m (cneed2 m) "TMSI".toList (tmsiText m 8) ++
    if m.length < 12 + 3 then []
    else
      let len := (octet m 13).toNat
      if octet m 12 ≠ gsm48IeMobileId then []
      else if m.length < 12 + 3 + len then []
      else logIdentity 424 "Paging3" m "n/a ".toList 14 len

def gsm48RxPagingP3 (m : Octets) : Text :=
  if m.length < 21 then []
  else
    logPaging 442 "Paging1" m (cneed1 m) "TMSI".toList (tmsiText m 4) ++
    logPaging 445 "Paging2" m (cneed2 m) "TMSI".toList (tmsiText m 8) ++
    logPaging 448 "Paging3" m "n/a ".toList "TMSI".toList (tmsiText m 12) ++
    logPaging 451 "Paging4" m "n/a ".toList "TMSI".toList (tmsiText m 16)

def gsm48RxCcch (subch : UInt8) (m : Octets) : Text :=
  match messageType m with
  | 0x21 => gsm48RxPagingP1 m
  | 0x22 => gsm48RxPagingP2 m
  | 0x24 => gsm48RxPagingP3 m
  | 0x3f => gsm48RxImmAss subch m
  | 0x20 => []
  | 0x07 => []
  | type => logp 485 ("unknown PCH/AGCH type 0x".toList ++ Text.hexPadded 2 type ++ ['\n'])

end ImsiCatcher

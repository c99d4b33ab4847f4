import ImsiCatcher.FrequencyList

/-!
# The system information record and its decoders

`struct gsm48_sysinfo` and the decoders of `sysinfo.c` that `catcher` calls, with the
fields that `catcher.c` or another decoder reads. A decoder is handed the message as
`bcch` received it: types 1 to 4 overlay it with a struct that begins with the L2 pseudo
length, types 5 and 6 with one that does not.
-/

namespace ImsiCatcher

def freqTypeServ : UInt8 := 0x01
def freqTypeHopp : UInt8 := 0x02
def freqTypeNcell : UInt8 := 0x1c
def freqTypeNcell2 : UInt8 := 0x04
def freqTypeNcell2bis : UInt8 := 0x08
def freqTypeNcell2ter : UInt8 := 0x10
def freqTypeRep5 : UInt8 := 0x20
def freqTypeRep5bis : UInt8 := 0x40
def freqTypeRep5ter : UInt8 := 0x80

/-- `struct gsm48_sysinfo`; the defaults are what `memset` leaves. -/
structure Gsm48Sysinfo where
  si1 : Bool := false
  si2 : Bool := false
  si2bis : Bool := false
  si2ter : Bool := false
  si3 : Bool := false
  si4 : Bool := false
  si5 : Bool := false
  si5bis : Bool := false
  si5ter : Bool := false
  si6 : Bool := false
  si1Msg : Octets := List.replicate 23 0
  si2Msg : Octets := List.replicate 23 0
  si2bMsg : Octets := List.replicate 23 0
  si2tMsg : Octets := List.replicate 23 0
  si3Msg : Octets := List.replicate 23 0
  si4Msg : Octets := List.replicate 23 0
  si5Msg : Octets := List.replicate 18 0
  si5bMsg : Octets := List.replicate 18 0
  si5tMsg : Octets := List.replicate 18 0
  si6Msg : Octets := List.replicate 18 0
  freq : ℕ → UInt8 := fun _ => 0
  hopping : List ℕ := []
  bsic : ℕ := 0
  cellId : ℕ := 0
  mcc : ℕ := 0
  mnc : ℕ := 0
  lac : ℕ := 0
  bandInd : Bool := false
  si2terInd : Bool := false
  neci : Bool := false
  ccchConf : ℕ := 0
  arfcn : ℕ := 0
  nbExtIndSi2 : Bool := false

/-- Clear a frequency type everywhere, then set it for the marked ARFCNs. -/
def markFreqs (f : ℕ → UInt8) (frqt : UInt8) (marks : List ℕ) : ℕ → UInt8 := fun i =>
  if i ∈ marks then f i &&& ~~~frqt ||| frqt else f i &&& ~~~frqt

namespace Gsm48Sysinfo

def decodeFreqList (s : Gsm48Sysinfo) (cd : Octets) (mask frqt : UInt8) : Gsm48Sysinfo :=
  { s with freq := markFreqs s.freq frqt (gsm48DecodeFreqList cd 16 mask) }

def gsm48DecodeLai (s : Gsm48Sysinfo) (lai : Octets) : Gsm48Sysinfo :=
  { s with
    mcc := (bits (octet lai 0) 0 4 <<< 8) ||| (bits (octet lai 0) 4 4 <<< 4) |||
      bits (octet lai 1) 0 4
    mnc := (bits (octet lai 2) 0 4 <<< 8) ||| (bits (octet lai 2) 4 4 <<< 4) |||
      bits (octet lai 1) 4 4
    lac := ntohs lai 3 }

def gsm48DecodeCellSelParam (s : Gsm48Sysinfo) (cs : Octets) : Gsm48Sysinfo :=
  { s with neci := bits (octet cs 1) 6 1 = 1 }

def gsm48DecodeCcd (s : Gsm48Sysinfo) (cc : Octets) : Gsm48Sysinfo :=
  { s with ccchConf := bits (octet cc 0) 0 3 }

/-- The ARFCN of a channel description without hopping. -/
def gsm48DecodeChanH0 (cd : Octets) : ℕ :=
  (octet cd 2).toNat ||| (bits (octet cd 1) 0 2 <<< 8)

def chanDescHopping (cd : Octets) : Bool := bits (octet cd 1) 4 1 = 1

/-- `gsm48_decode_mobile_alloc` with `si4` set: the frequency masks and the hopping list. -/
def gsm48DecodeMobileAlloc (s : Gsm48Sysinfo) (ma : Octets) (len : ℕ) : Gsm48Sysinfo :=
  if 8 < len then s
  else
    let freq := fun i => s.freq i &&& ~~~freqTypeHopp
    let f := (((List.range' 1 1024).map (· % 1024)).filter
      fun i => freq i &&& freqTypeServ ≠ 0).take (len * 8)
    let used := (List.range (len * 8)).filter
      fun i => bits (octet ma (len - 1 - i / 8)) (i % 8) 1 = 1
    let hopping := (used.takeWhile (· < f.length)).map fun i => f.getD i 0
    { s with freq := markFreqs freq freqTypeHopp hopping, hopping := hopping }

def gsm48DecodeSi1Rest (s : Gsm48Sysinfo) (si : Octets) : Gsm48Sysinfo :=
  let (nch, bv) := (Bitvec.mk si 0).getBitHigh
  let bv := if nch then bv.skip 5 else bv
  { s with bandInd := bv.getBitHigh.1 }

/-- The optional selection parameters and power offset come before the SI 2ter indicator. -/
def gsm48DecodeSi3Rest (s : Gsm48Sysinfo) (si : Octets) : Gsm48Sysinfo :=
  let (sp, bv) := (Bitvec.mk si 0).getBitHigh
  let bv := if sp then bv.skip (1 + 6 + 3 + 5) else bv
  let (po, bv) := bv.getBitHigh
  let bv := if po then bv.skip 3 else bv
  { s with si2terInd := bv.getBitHigh.1 }

def gsm48DecodeSysinfo2 (s : Gsm48Sysinfo) (si : Octets) : Gsm48Sysinfo :=
  let s := { s with
    si2Msg := si.take 23
    nbExtIndSi2 := bits (octet si 3) 6 1 = 1 }
  { s.decodeFreqList (si.drop 3) 0xce freqTypeNcell2 with si2 := true }

def gsm48DecodeSysinfo2bis (s : Gsm48Sysinfo) (si : Octets) : Gsm48Sysinfo :=
  let s := { s with si2bMsg := si.take 23 }
  { s.decodeFreqList (si.drop 3) 0xce freqTypeNcell2bis with si2bis := true }

def gsm48DecodeSysinfo2ter (s : Gsm48Sysinfo) (si : Octets) : Gsm48Sysinfo :=
  let s := { s with si2tMsg := si.take 23 }
  { s.decodeFreqList (si.drop 3) 0x8e freqTypeNcell2ter with si2ter := true }

def gsm48DecodeSysinfo3 (s : Gsm48Sysinfo) (si : Octets) : Gsm48Sysinfo :=
  let s := { s with si3Msg := si.take 23, cellId := ntohs si 3 }
  let s := (s.gsm48DecodeLai (si.drop 5)).gsm48DecodeCcd (si.drop 10)
  let s := s.gsm48DecodeCellSelParam (si.drop 14)
  let rest := si.drop 19
  let s := if 4 ≤ rest.length then s.gsm48DecodeSi3Rest rest else s
  { s with si3 := true }

/-- The CBCH channel description: `data` begins with its tag. -/
def decodeCbchChanDesc (s : Gsm48Sysinfo) (data : Octets) : Gsm48Sysinfo :=
  let cd := data.drop 1
  if chanDescHopping cd then s else { s with arfcn := gsm48DecodeChanH0 cd }

/-- The CBCH mobile allocation and what follows it; a list that is cut off ends the
decoding before the message counts as received. -/
def decodeCbchMobAl (s : Gsm48Sysinfo) (data : Octets) : Gsm48Sysinfo :=
  if 1 ≤ data.length ∧ octet data 0 = 0x72 then
    if data.length < 2 + (octet data 1).toNat then s
    else
      let s := if s.si1 then s else s.gsm48DecodeMobileAlloc (data.drop 2) (octet data 1).toNat
      { s with si4 := true }
  else { s with si4 := true }

def gsm48DecodeSysinfo4 (s : Gsm48Sysinfo) (si : Octets) : Gsm48Sysinfo :=
  let data := si.drop 13
  let s := { s with si4Msg := si.take 23 }
  let s := (s.gsm48DecodeLai (si.drop 3)).gsm48DecodeCellSelParam (si.drop 8)
  if 1 ≤ data.length ∧ octet data 0 = 0x64 then
    if data.length < 4 then s
    else (s.decodeCbchChanDesc data).decodeCbchMobAl (data.drop 4)
  else s.decodeCbchMobAl data

def gsm48DecodeSysinfo1 (s : Gsm48Sysinfo) (si : Octets) : Gsm48Sysinfo :=
  let s := { s with si1Msg := si.take 23 }
  let s := s.decodeFreqList (si.drop 3) 0xce freqTypeServ
  let rest := si.drop 22
  let s := if rest.length ≠ 0 then s.gsm48DecodeSi1Rest rest else s
  let s := { s with si1 := true }
  if s.si4 then s.gsm48DecodeSysinfo4 s.si4Msg else s

def gsm48DecodeSysinfo5 (s : Gsm48Sysinfo) (si : Octets) : Gsm48Sysinfo :=
  let s := { s with si5Msg := si.take 18 }
  { s.decodeFreqList (si.drop 2) 0xce freqTypeRep5 with si5 := true }

def gsm48DecodeSysinfo5bis (s : Gsm48Sysinfo) (si : Octets) : Gsm48Sysinfo :=
  let s := { s with si5bMsg := si.take 18 }
  { s.decodeFreqList (si.drop 2) 0xce freqTypeRep5bis with si5bis := true }

def gsm48DecodeSysinfo5ter (s : Gsm48Sysinfo) (si : Octets) : Gsm48Sysinfo :=
  let s := { s with si5tMsg := si.take 18 }
  { s.decodeFreqList (si.drop 2) 0x8e freqTypeRep5ter with si5ter := true }

def gsm48DecodeSysinfo6 (s : Gsm48Sysinfo) (si : Octets) : Gsm48Sysinfo :=
  let s := { s with si6Msg := si.take 18, cellId := ntohs si 2 }
  { s.gsm48DecodeLai (si.drop 4) with si6 := true }

end Gsm48Sysinfo
end ImsiCatcher

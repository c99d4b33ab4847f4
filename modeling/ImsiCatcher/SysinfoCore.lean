import ImsiCatcher.Reception

/-!
# What the decoders write

The part of the record that decides whether, and under which ARFCN, a cell is reported.
Each decoder is described once by what it does to this part.
-/

namespace ImsiCatcher

structure SysinfoCore where
  si1 : Bool
  si2 : Bool
  si2bis : Bool
  si2ter : Bool
  si3 : Bool
  si4 : Bool
  nbExtIndSi2 : Bool
  si2terInd : Bool
  arfcn : ℕ
  si4Msg : Octets

def Gsm48Sysinfo.core (s : Gsm48Sysinfo) : SysinfoCore where
  si1 := s.si1
  si2 := s.si2
  si2bis := s.si2bis
  si2ter := s.si2ter
  si3 := s.si3
  si4 := s.si4
  nbExtIndSi2 := s.nbExtIndSi2
  si2terInd := s.si2terInd
  arfcn := s.arfcn
  si4Msg := s.si4Msg

/-- The ARFCN of the CBCH that an SI 4 names: one that does not hop. -/
def cbchArfcn (si : Octets) : Option ℕ :=
  let data := si.drop 13
  if 4 ≤ data.length ∧ octet data 0 = 0x64 ∧
      Gsm48Sysinfo.chanDescHopping (data.drop 1) = false then
    some (Gsm48Sysinfo.gsm48DecodeChanH0 (data.drop 1))
  else none

def si2terIndicator (si : Octets) : Bool :=
  (Gsm48Sysinfo.gsm48DecodeSi3Rest {} (si.drop 19)).si2terInd

namespace Gsm48Sysinfo

theorem gsm48DecodeMobileAlloc_core (s : Gsm48Sysinfo) (ma : Octets) (len : ℕ) :
    (s.gsm48DecodeMobileAlloc ma len).core = s.core := by
  unfold gsm48DecodeMobileAlloc
  split <;> rfl

theorem decodeCbchMobAl_core {s : Gsm48Sysinfo} {k : SysinfoCore} (hk : s.core = k)
    (data : Octets) :
    ∃ received, (s.decodeCbchMobAl data).core = { k with si4 := k.si4 || received } := by
  subst hk
  unfold decodeCbchMobAl
  by_cases htag : 1 ≤ data.length ∧ octet data 0 = 0x72
  · rw [if_pos htag]
    by_cases hlen : data.length < 2 + (octet data 1).toNat
    · refine ⟨false, ?_⟩
      rw [if_pos hlen, Bool.or_false]
    · rw [if_neg hlen]
      extract_lets t
      refine ⟨true, ?_⟩
      have ht : t.core = s.core := by
        unfold t
        split
        · rfl
        · exact gsm48DecodeMobileAlloc_core s _ _
      rw [Bool.or_true, ← ht]
      rfl
  · refine ⟨true, ?_⟩
    rw [if_neg htag, Bool.or_true]
    rfl

theorem gsm48DecodeSysinfo4_core {s : Gsm48Sysinfo} {k : SysinfoCore} (hk : s.core = k)
    (si : Octets) :
    ∃ received, (s.gsm48DecodeSysinfo4 si).core = { k with
      si4 := k.si4 || received
      si4Msg := si.take 23
      arfcn := (cbchArfcn si).getD k.arfcn } := by
  unfold gsm48DecodeSysinfo4 cbchArfcn
  extract_lets data s1 s2
  have h2 : s2.core = { k with si4Msg := si.take 23 } := by
    subst hk
    rfl
  by_cases hdata : 1 ≤ data.length ∧ octet data 0 = 0x64
  · rw [if_pos hdata]
    by_cases hlen : data.length < 4
    · refine ⟨false, ?_⟩
      rw [if_pos hlen, if_neg (by omega), Bool.or_false]
      exact h2
    · rw [if_neg hlen]
      by_cases hop : chanDescHopping (data.drop 1) = true
      · rw [if_neg fun h => Bool.false_ne_true (h.2.2.symm.trans hop)]
        have h3 : (s2.decodeCbchChanDesc data).core = { k with si4Msg := si.take 23 } := by
          unfold decodeCbchChanDesc
          rw [if_pos hop]
          exact h2
        exact decodeCbchMobAl_core h3 _
      · rw [if_pos ⟨by omega, hdata.2, by simpa using hop⟩]
        have h3 : (s2.decodeCbchChanDesc data).core = { k with
            si4Msg := si.take 23
            arfcn := gsm48DecodeChanH0 (data.drop 1) } := by
          unfold decodeCbchChanDesc
          rw [if_neg hop]
          subst hk
          rfl
        exact decodeCbchMobAl_core h3 _
  · rw [if_neg hdata, if_neg fun h => hdata ⟨by omega, h.2.1⟩]
    exact decodeCbchMobAl_core h2 _

theorem gsm48DecodeSysinfo1_core {s : Gsm48Sysinfo} {k : SysinfoCore} (hk : s.core = k)
    (si : Octets) :
    ∃ t : Gsm48Sysinfo, t.core = { k with si1 := true } ∧
      s.gsm48DecodeSysinfo1 si = if k.si4 then t.gsm48DecodeSysinfo4 k.si4Msg else t := by
  subst hk
  unfold gsm48DecodeSysinfo1
  extract_lets s1 s2 rest s3 s4
  have h3 : s3.core = s.core := by
    unfold s3
    split <;> rfl
  have hsi4 : s4.si4 = s.si4 := congrArg SysinfoCore.si4 h3
  have hmsg : s4.si4Msg = s.si4Msg := congrArg SysinfoCore.si4Msg h3
  refine ⟨s4, ?_, ?_⟩
  · rw [← h3]
    rfl
  · rw [hsi4, hmsg]
    rfl

theorem gsm48DecodeSysinfo2_core {s : Gsm48Sysinfo} {k : SysinfoCore} (hk : s.core = k)
    (si : Octets) : (s.gsm48DecodeSysinfo2 si).core = { k with
      si2 := true
      nbExtIndSi2 := bits (octet si 3) 6 1 = 1 } := by
  subst hk
  rfl

theorem gsm48DecodeSysinfo3_core {s : Gsm48Sysinfo} {k : SysinfoCore} (hk : s.core = k)
    (si : Octets) : (s.gsm48DecodeSysinfo3 si).core = { k with
      si3 := true
      si2terInd := if 4 ≤ (si.drop 19).length then si2terIndicator si else k.si2terInd } := by
  subst hk
  unfold gsm48DecodeSysinfo3
  extract_lets s1 s2 s3 rest s4
  by_cases hrest : 4 ≤ rest.length
  · have h4 : s4 = s3.gsm48DecodeSi3Rest rest := if_pos hrest
    rw [if_pos hrest, h4]
    rfl
  · have h4 : s4 = s3 := if_neg hrest
    rw [if_neg hrest, h4]
    rfl

/-- What `bcch` may make of a message: an SI 4 that is not decoded is the one held. -/
theorem bcchDecode_cases {s : Gsm48Sysinfo} {msg : Octets} {motive : Gsm48Sysinfo → Prop}
    (same : (msg.length = 23 → messageType msg = 0x1c → msg = s.si4Msg) → motive s)
    (si1 : messageType msg = 0x19 → motive (s.gsm48DecodeSysinfo1 msg))
    (si2 : messageType msg = 0x1a → motive (s.gsm48DecodeSysinfo2 msg))
    (si3 : messageType msg = 0x1b → motive (s.gsm48DecodeSysinfo3 msg))
    (si4 : msg.length = 23 → messageType msg = 0x1c → motive (s.gsm48DecodeSysinfo4 msg))
    (other : ∀ s' : Gsm48Sysinfo, messageType msg ≠ 0x1c →
      (∀ k, s.core = k → s'.core = k ∨ s'.core = { k with si2bis := true } ∨
        s'.core = { k with si2ter := true }) → motive s') :
    motive ((s.bcchDecode msg).getD s) := by
  cases hdecode : s.bcchDecode msg with
  | none =>
    apply same
    intro hlen ht
    by_contra hnew
    simp [bcchDecode, hlen, ht, hnew] at hdecode
  | some s' =>
    rw [Option.getD_some]
    apply bcchDecode_some hdecode
    case si1 => exact si1
    case si2 => exact si2
    case si3 => exact si3
    case si4 => exact si4 (length_of_bcchDecode hdecode)
    case si2bis => exact fun ht => other _ (by omega) fun k hk => hk ▸ Or.inr (Or.inl rfl)
    case si2ter => exact fun ht => other _ (by omega) fun k hk => hk ▸ Or.inr (Or.inr rfl)
    all_goals exact fun ht => other _ (by omega) fun k hk => hk ▸ Or.inl rfl

end Gsm48Sysinfo
end ImsiCatcher

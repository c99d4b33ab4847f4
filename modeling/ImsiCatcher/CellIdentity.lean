import ImsiCatcher.CatcherReports
import ImsiCatcher.NeighbourMarks
import Mathlib.Data.List.DropRight

/-!
# The identity of a cell

MCC, MNC and LAC come with SI 3, SI 4 and SI 6, the cell identity with SI 3 and SI 6. The
struct of SI 6 has no octet for the L2 pseudo length, so that an SI 6 is read one octet too
early; and an SI 1 has the SI 4 that is held decoded again, whatever came behind it.
-/

namespace ImsiCatcher

/-- The latest message that meets `p`. -/
def lastWith (p : Octets → Bool) (msgs : List Octets) : Option Octets := (msgs.filter p).getLast?

theorem lastWith_concat (p : Octets → Bool) (msgs : List Octets) (msg : Octets) :
    lastWith p (msgs ++ [msg]) = if p msg then some msg else lastWith p msgs := by
  unfold lastWith
  rw [List.filter_append]
  by_cases h : p msg = true
  · rw [if_pos h, List.filter_cons_of_pos h]
    simp
  · rw [if_neg h, List.filter_cons_of_neg h]
    simp

structure LocationArea where
  mcc : ℕ := 0
  mnc : ℕ := 0
  lac : ℕ := 0
  deriving DecidableEq

def Gsm48Sysinfo.area (s : Gsm48Sysinfo) : LocationArea := ⟨s.mcc, s.mnc, s.lac⟩

/-- The location area that stands at a place of a message: three digits of the MCC and three of
the MNC in half octets, the low half first, and sixteen bits of the LAC. The third digit of each
is in the second octet: that of the MCC below, that of the MNC above. -/
def areaAt (msg : Octets) (i : ℕ) : LocationArea :=
  let octetAt (k : ℕ) : ℕ := (octet msg (i + k)).toNat
  { mcc := 256 * (octetAt 0 % 16) + 16 * (octetAt 0 / 16) + octetAt 1 % 16
    mnc := 256 * (octetAt 2 % 16) + 16 * (octetAt 2 / 16) + octetAt 1 / 16
    lac := 256 * octetAt 3 + octetAt 4 }

def carriesCellId (msg : Octets) : Bool := messageType msg = 0x1b ∨ messageType msg = 0x1e

def carriesArea (msg : Octets) : Bool := carriesCellId msg ∨ messageType msg = 0x1c

/-- Behind the header of three octets, the area comes first in an SI 4, and behind the cell
identity in the others. -/
def areaPlace (msg : Octets) : ℕ := if messageType msg = 0x1c then 3 else 5

/-- What the latest carriers say at their place behind the header is what is held. -/
structure IdentityRead (s : Gsm48Sysinfo) (msgs : List Octets) : Prop where
  cellId : ∀ msg ∈ lastWith carriesCellId msgs, s.cellId = ntohs msg 3
  area : ∀ msg ∈ lastWith carriesArea msgs, s.area = areaAt msg (areaPlace msg)

/-- It is also what the block says. -/
structure IdentityPrinted (networks : List GsmNetwork) (s : Gsm48Sysinfo) (meas : RxMeasStat)
    (msgs : List Octets) : Prop extends IdentityRead s msgs where
  cellIdLine : ∀ msg ∈ lastWith carriesCellId msgs, (sysinfoLines networks s meas)[4]? =
    some (logLine "Cell ID: " (Text.decimal (ntohs msg 3)))
  areaLines : ∀ msg ∈ lastWith carriesArea msgs,
    let area := areaAt msg (areaPlace msg)
    (sysinfoLines networks s meas)[1]? =
        some (logLine "Country: " (gsmGetMcc networks area.mcc)) ∧
      (sysinfoLines networks s meas)[2]? =
        some (logLine "Provider: " (gsmGetMnc networks area.mcc area.mnc)) ∧
      (sysinfoLines networks s meas)[5]? = some (logLine "LAC: " (Text.decimal area.lac))

def mobAlEnds (data : Octets) : Bool :=
  octet data 0 = 0x72 → 2 + (octet data 1).toNat ≤ data.length

/-- An SI 4 that is decoded to its end. The allocation comes behind a channel description, if
there is one. -/
def wholeSi4 (msg : Octets) : Bool :=
  messageType msg = 0x1c ∧ mobAlEnds (if octet msg 13 = 0x64 then msg.drop 17 else msg.drop 13)

/-- The SI 4 that an SI 1 behind the latest area has had decoded again. -/
def rereadSi4 (msgs : List Octets) : Option Octets :=
  if (msgs.rtakeWhile fun msg => !carriesArea msg).any (fun msg => messageType msg = 0x19) ∧
      msgs.any wholeSi4 then lastOf 0x1c msgs
  else none

/-- An SI 6 says the same one octet earlier, and the SI 4 that is decoded again the same as the
latest area. -/
structure PlacesAgree (msgs : List Octets) : Prop where
  cellId : ∀ msg ∈ lastWith carriesCellId msgs, messageType msg = 0x1e → ntohs msg 2 = ntohs msg 3
  area : rereadSi4 msgs = none → ∀ msg ∈ lastWith carriesArea msgs, messageType msg = 0x1e →
    areaAt msg 4 = areaAt msg 5
  reread : ∀ si4 ∈ rereadSi4 msgs, ∀ msg ∈ lastWith carriesArea msgs,
    areaAt si4 3 = areaAt msg (areaPlace msg)

/-! ### What the decoders do to the identity -/

theorem bits_low (o : UInt8) : bits o 0 4 = o.toNat % 16 := by
  unfold bits
  omega

theorem bits_high (o : UInt8) : bits o 4 4 = o.toNat / 16 := by
  have hlt := o.toNat_lt
  unfold bits
  omega

/-- Three digits of four bits. -/
theorem digits_eq {a b c : ℕ} (ha : a < 16) (hb : b < 16) (hc : c < 16) :
    (a <<< 8) ||| (b <<< 4) ||| c = 256 * a + 16 * b + c := by
  have hall : ∀ a b c : Fin 16, (a.val <<< 8) ||| (b.val <<< 4) ||| c.val =
      256 * a.val + 16 * b.val + c.val := by
    decide +kernel
  exact hall ⟨a, ha⟩ ⟨b, hb⟩ ⟨c, hc⟩

/-- `gsm48_decode_lai` reads the area. -/
theorem gsm48DecodeLai_area (s : Gsm48Sysinfo) (msg : Octets) (i : ℕ) :
    (s.gsm48DecodeLai (msg.drop i)).area = areaAt msg i := by
  have hhigh : ∀ k, (octet msg (i + k)).toNat / 16 < 16 := fun k => by
    have hlt := (octet msg (i + k)).toNat_lt
    omega
  have hlow : ∀ k, (octet msg (i + k)).toNat % 16 < 16 := fun k => Nat.mod_lt _ (by decide)
  simp only [Gsm48Sysinfo.gsm48DecodeLai, Gsm48Sysinfo.area, areaAt, ntohs, octet_drop, bits_low,
    bits_high, digits_eq (hlow 0) (hhigh 0) (hlow 1), digits_eq (hlow 2) (hhigh 2) (hhigh 1),
    Nat.mul_comm 256]

structure IdentityPart where
  cellId : ℕ := 0
  area : LocationArea := {}
  si4 : Bool := false
  si4Msg : Octets := List.replicate 23 0

def Gsm48Sysinfo.identityPart (s : Gsm48Sysinfo) : IdentityPart where
  cellId := s.cellId
  area := s.area
  si4 := s.si4
  si4Msg := s.si4Msg

namespace IdentityPart

def hear (k : IdentityPart) (msg : Octets) : IdentityPart :=
  if messageType msg = 0x1b then { k with cellId := ntohs msg 3, area := areaAt msg 5 }
  else if messageType msg = 0x1e then { k with cellId := ntohs msg 2, area := areaAt msg 4 }
  else if messageType msg = 0x1c then
    { k with area := areaAt msg 3, si4 := k.si4 || wholeSi4 msg, si4Msg := msg }
  else if messageType msg = 0x19 ∧ k.si4 then { k with area := areaAt k.si4Msg 3 }
  else k

end IdentityPart

namespace Gsm48Sysinfo

theorem gsm48DecodeMobileAlloc_identityPart (s : Gsm48Sysinfo) (ma : Octets) (len : ℕ) :
    (s.gsm48DecodeMobileAlloc ma len).identityPart = s.identityPart := by
  unfold gsm48DecodeMobileAlloc
  split <;> rfl

theorem decodeCbchMobAl_identityPart {s : Gsm48Sysinfo} {k : IdentityPart}
    (hk : s.identityPart = k) (data : Octets) :
    (s.decodeCbchMobAl data).identityPart = { k with si4 := k.si4 || mobAlEnds data } := by
  subst hk
  unfold decodeCbchMobAl mobAlEnds
  by_cases htag : octet data 0 = 0x72
  · have hlen : 1 ≤ data.length := by
      cases data with
      | nil => exact absurd htag (by decide)
      | cons o data => simp
    rw [if_pos ⟨hlen, htag⟩]
    by_cases hcut : data.length < 2 + (octet data 1).toNat
    · have hnot : ¬(octet data 0 = 0x72 → 2 + (octet data 1).toNat ≤ data.length) := by
        intro h
        have := h htag
        omega
      rw [if_pos hcut, decide_eq_false hnot, Bool.or_false]
    · rw [if_neg hcut, decide_eq_true (by omega), Bool.or_true]
      extract_lets t
      have ht : t.identityPart = s.identityPart := by
        unfold t
        split
        · rfl
        · exact gsm48DecodeMobileAlloc_identityPart s _ _
      exact congrArg (fun k : IdentityPart => { k with si4 := true }) ht
  · rw [if_neg fun h => htag h.2, decide_eq_true fun h => absurd h htag, Bool.or_true]
    rfl

theorem gsm48DecodeSysinfo4_identityPart {s : Gsm48Sysinfo} {k : IdentityPart}
    (hk : s.identityPart = k) {si : Octets} (hlen : si.length = 23) :
    (s.gsm48DecodeSysinfo4 si).identityPart = { k with
      area := areaAt si 3
      si4 := k.si4 ||
        mobAlEnds (if octet si 13 = 0x64 then si.drop 17 else si.drop 13)
      si4Msg := si } := by
  have htake : si.take 23 = si := List.take_of_length_le (by omega)
  have htag : octet (si.drop 13) 0 = octet si 13 := octet_drop si 13 0
  unfold gsm48DecodeSysinfo4
  extract_lets data s1 s2
  have hdata : data.length = 10 := by
    unfold data
    rw [List.length_drop, hlen]
  have h2 : s2.identityPart = { k with area := areaAt si 3, si4Msg := si.take 23 } := by
    rw [← hk, ← gsm48DecodeLai_area s si 3]
    rfl
  rw [htake] at h2
  rw [← htag]
  by_cases hcbch : octet data 0 = 0x64
  · have hdesc : (s2.decodeCbchChanDesc data).identityPart = s2.identityPart := by
      unfold decodeCbchChanDesc
      extract_lets cd
      split <;> rfl
    rw [if_pos ⟨by omega, hcbch⟩, if_neg (by omega), if_pos hcbch]
    rw [decodeCbchMobAl_identityPart (hdesc.trans h2), List.drop_drop]
  · rw [if_neg fun h => hcbch h.2, if_neg hcbch]
    exact decodeCbchMobAl_identityPart h2 data

theorem gsm48DecodeSysinfo1_identityPart {s : Gsm48Sysinfo} {k : IdentityPart}
    (hk : s.identityPart = k) (hlen : k.si4Msg.length = 23) (si : Octets) :
    (s.gsm48DecodeSysinfo1 si).identityPart =
      if k.si4 then { k with area := areaAt k.si4Msg 3 } else k := by
  unfold gsm48DecodeSysinfo1
  extract_lets s1 s2 rest s3 s4
  have h4 : s4.identityPart = k := by
    subst hk
    unfold s4 s3
    split <;> rfl
  have hsi4 : s4.si4 = k.si4 := congrArg IdentityPart.si4 h4
  have hmsg : s4.si4Msg = k.si4Msg := congrArg IdentityPart.si4Msg h4
  rw [hsi4, hmsg]
  by_cases hheld : k.si4 = true
  · rw [if_pos hheld, if_pos hheld, gsm48DecodeSysinfo4_identityPart h4 hlen, hheld]
    rfl
  · rw [if_neg hheld, if_neg hheld]
    exact h4

theorem gsm48DecodeSysinfo3_identityPart (s : Gsm48Sysinfo) (si : Octets) :
    (s.gsm48DecodeSysinfo3 si).identityPart = { s.identityPart with
      cellId := ntohs si 3
      area := areaAt si 5 } := by
  unfold gsm48DecodeSysinfo3
  extract_lets s1 s2 s3 rest s4
  have h4 : s4.identityPart = s3.identityPart := by
    unfold s4
    split <;> rfl
  rw [← gsm48DecodeLai_area s si 5]
  exact h4

theorem bcchDecode_identityPart {s s' : Gsm48Sysinfo} {k : IdentityPart} {msg : Octets}
    (hk : s.identityPart = k) (hlen : k.si4Msg.length = 23) (h : s.bcchDecode msg = some s') :
    s'.identityPart = k.hear msg := by
  have hkept : ∀ t : Gsm48Sysinfo, t.identityPart = s.identityPart → messageType msg ≠ 0x1b →
      messageType msg ≠ 0x1e → messageType msg ≠ 0x1c → messageType msg ≠ 0x19 →
      t.identityPart = k.hear msg := by
    intro t ht h3 h6 h4 h1
    rw [ht, hk, IdentityPart.hear, if_neg h3, if_neg h6, if_neg h4, if_neg fun h => h1 h.1]
  have hmsg := length_of_bcchDecode h
  apply bcchDecode_some h
  case si1 =>
    intro ht
    rw [gsm48DecodeSysinfo1_identityPart hk hlen]
    simp [IdentityPart.hear, ht]
  case si3 =>
    intro ht
    rw [gsm48DecodeSysinfo3_identityPart, hk, IdentityPart.hear, if_pos ht]
  case si4 =>
    intro ht
    rw [gsm48DecodeSysinfo4_identityPart hk hmsg]
    simp [IdentityPart.hear, ht, wholeSi4]
  case si6 =>
    intro ht
    have hnot : messageType msg ≠ 0x1b := by omega
    rw [IdentityPart.hear, if_neg hnot, if_pos ht, ← hk, ← gsm48DecodeLai_area s msg 4]
    rfl
  all_goals
    intro ht
    exact hkept _ rfl (by omega) (by omega) (by omega) (by omega)

end Gsm48Sysinfo

/-! ### The identity along a run -/

theorem rereadSi4_of_carriesArea {msgs : List Octets} {msg : Octets} (h : carriesArea msg) :
    rereadSi4 (msgs ++ [msg]) = none := by
  unfold rereadSi4
  rw [List.rtakeWhile_concat_neg _ _ _ (by simp [h]), List.any_nil]
  exact if_neg fun hre => Bool.false_ne_true hre.1

/-- A message that does not carry an area has an SI 4 decoded again if it is an SI 1. -/
theorem rereadSi4_concat {msgs : List Octets} {msg : Octets} (h : carriesArea msg = false) :
    rereadSi4 (msgs ++ [msg]) =
      if messageType msg = 0x19 ∧ msgs.any wholeSi4 then lastOf 0x1c msgs
      else rereadSi4 msgs := by
  have hsi4 : messageType msg ≠ 0x1c := by
    intro ht
    simp [carriesArea, ht] at h
  have hwhole : wholeSi4 msg = false := by
    simp [wholeSi4, hsi4]
  unfold rereadSi4
  rw [List.rtakeWhile_concat_pos _ _ _ (by simp [h]), lastOf_concat, if_neg hsi4, List.any_append,
    List.any_append]
  simp only [List.any_cons, List.any_nil, Bool.or_false, hwhole]
  by_cases h1 : messageType msg = 0x19
  · cases msgs.any wholeSi4 <;> simp [h1]
  · simp [h1]

theorem exists_lastWith {p : Octets → Bool} {msgs : List Octets} {msg : Octets} (hmsg : msg ∈ msgs)
    (hp : p msg) : ∃ last, lastWith p msgs = some last := by
  apply Option.isSome_iff_exists.1
  rw [lastWith, List.getLast?_isSome]
  exact List.ne_nil_of_mem (List.mem_filter.2 ⟨hmsg, hp⟩)

/-- Where an SI 4 was read to its end, there are a latest SI 4 and a latest area. -/
theorem exists_last_of_wholeSi4 {msgs : List Octets} (h : msgs.any wholeSi4) :
    (∃ si4, lastOf 0x1c msgs = some si4) ∧ ∃ last, lastWith carriesArea msgs = some last := by
  obtain ⟨msg, hmsg, hwhole⟩ := List.any_eq_true.1 h
  rw [wholeSi4, decide_eq_true_iff] at hwhole
  refine ⟨exists_lastWith (p := fun msg => messageType msg = 0x1c) hmsg ?_,
    exists_lastWith hmsg ?_⟩
  · simpa using hwhole.1
  · simp [carriesArea, hwhole.1]

namespace IdentityPart

def heard (msgs : List Octets) : IdentityPart := msgs.foldl hear {}

theorem heard_concat (msgs : List Octets) (msg : Octets) :
    heard (msgs ++ [msg]) = (heard msgs).hear msg := List.foldl_concat ..

/-- What is heard is what the latest carriers say where they are read. -/
theorem heard_eq (msgs : List Octets) : heard msgs = {
    cellId := (lastWith carriesCellId msgs).elim 0 fun msg =>
      ntohs msg (if messageType msg = 0x1e then 2 else 3)
    area := (lastWith carriesArea msgs).elim {} fun msg =>
      (rereadSi4 msgs).elim (areaAt msg (if messageType msg = 0x1e then 4 else areaPlace msg))
        fun si4 => areaAt si4 3
    si4 := msgs.any wholeSi4
    si4Msg := (lastOf 0x1c msgs).getD (List.replicate 23 0) } := by
  induction msgs using List.reverseRecOn with
  | nil => rfl
  | append_singleton msgs msg ih =>
    rw [heard_concat, ih]
    by_cases h3 : messageType msg = 0x1b
    · have hcarries : carriesArea msg = true := by simp [carriesArea, carriesCellId, h3]
      simp [hear, lastWith_concat, lastOf_concat, rereadSi4_of_carriesArea hcarries, hcarries,
        carriesCellId, wholeSi4, areaPlace, h3]
    by_cases h6 : messageType msg = 0x1e
    · have hcarries : carriesArea msg = true := by simp [carriesArea, carriesCellId, h6]
      simp [hear, lastWith_concat, lastOf_concat, rereadSi4_of_carriesArea hcarries, hcarries,
        carriesCellId, wholeSi4, h6]
    by_cases h4 : messageType msg = 0x1c
    · have hcarries : carriesArea msg = true := by simp [carriesArea, h4]
      simp [hear, lastWith_concat, lastOf_concat, rereadSi4_of_carriesArea hcarries, hcarries,
        carriesCellId, areaPlace, h4]
    have hcarries : carriesArea msg = false := by simp [carriesArea, carriesCellId, h3, h4, h6]
    have hcell : carriesCellId msg = false := by simp [carriesCellId, h3, h6]
    have hwhole : wholeSi4 msg = false := by simp [wholeSi4, h4]
    rw [lastWith_concat, lastWith_concat, lastOf_concat, rereadSi4_concat hcarries, hcarries, hcell,
      if_neg h4, List.any_append, List.any_cons, List.any_nil, hwhole]
    by_cases h1 : messageType msg = 0x19 ∧ msgs.any wholeSi4 = true
    · obtain ⟨⟨si4, hsi4⟩, last, hlast⟩ := exists_last_of_wholeSi4 h1.2
      rw [if_pos h1, hsi4, hlast]
      simp [hear, h1.1, h1.2]
    · rw [if_neg h1]
      unfold hear
      rw [if_neg h3, if_neg h6, if_neg h4, if_neg h1]
      simp

end IdentityPart

theorem identityRead_iff {s : Gsm48Sysinfo} {msgs : List Octets}
    (h : s.identityPart = .heard msgs) : IdentityRead s msgs ↔ PlacesAgree msgs := by
  rw [IdentityPart.heard_eq] at h
  have hcell : s.cellId = _ := congrArg IdentityPart.cellId h
  have harea : s.area = _ := congrArg IdentityPart.area h
  have hplace : ∀ msg, messageType msg = 0x1e → areaPlace msg = 5 := by
    intro msg ht
    simp [areaPlace, ht]
  constructor
  · rintro ⟨hreadCell, hreadArea⟩
    refine ⟨?_, ?_, ?_⟩
    · intro msg hmsg ht
      have hread := hreadCell msg hmsg
      rw [hcell, Option.mem_def.1 hmsg] at hread
      simpa [ht] using hread
    · intro hnone msg hmsg ht
      have hread := hreadArea msg hmsg
      rw [harea, Option.mem_def.1 hmsg, hnone, hplace msg ht] at hread
      simpa [ht] using hread
    · intro si4 hsi4 msg hmsg
      have hread := hreadArea msg hmsg
      rw [harea, Option.mem_def.1 hmsg, Option.mem_def.1 hsi4] at hread
      exact hread
  · rintro ⟨hagreeCell, hagreeArea, hreread⟩
    refine ⟨?_, ?_⟩
    · intro msg hmsg
      rw [hcell, Option.mem_def.1 hmsg, Option.elim_some]
      by_cases ht : messageType msg = 0x1e
      · rw [if_pos ht]
        exact hagreeCell msg hmsg ht
      · rw [if_neg ht]
    · intro msg hmsg
      rw [harea, Option.mem_def.1 hmsg, Option.elim_some]
      cases hsi4 : rereadSi4 msgs with
      | some si4 => exact hreread si4 hsi4 msg hmsg
      | none =>
        rw [Option.elim_none]
        by_cases ht : messageType msg = 0x1e
        · rw [if_pos ht, hplace msg ht]
          exact hagreeArea hsi4 msg hmsg ht
        · rw [if_neg ht]

theorem identityPrinted_iff (networks : List GsmNetwork) {s : Gsm48Sysinfo} (meas : RxMeasStat)
    {msgs : List Octets} : IdentityPrinted networks s meas msgs ↔ IdentityRead s msgs := by
  constructor
  · exact IdentityPrinted.toIdentityRead
  · intro h
    refine ⟨h, ?_, ?_⟩
    · intro msg hmsg
      rw [← h.cellId msg hmsg]
      rfl
    · intro msg hmsg
      rw [← h.area msg hmsg]
      exact ⟨rfl, rfl, rfl⟩

/-- What `bcch` keeps of the identity is carried from message to message. -/
def IdentityHeard (s : Gsm48Sysinfo) (msgs : List Octets) : Prop :=
  s.identityPart = .heard msgs ∧ s.si4Msg.length = 23

theorem identityHeard_bsic (s : Gsm48Sysinfo) (msgs : List Octets) (bsic : ℕ)
    (h : IdentityHeard s msgs) : IdentityHeard { s with bsic := bsic } msgs := h

theorem identityHeard_decode (s : Gsm48Sysinfo) (msgs : List Octets) (msg : Octets)
    (s' : Gsm48Sysinfo) (h : IdentityHeard s msgs) (hdecode : s.bcchDecode msg = some s') :
    IdentityHeard s' (msgs ++ [msg]) := by
  obtain ⟨hk, hlen⟩ := h
  have hk' := Gsm48Sysinfo.bcchDecode_identityPart hk (hk ▸ hlen) hdecode
  refine ⟨hk'.trans (IdentityPart.heard_concat msgs msg).symm, ?_⟩
  have hmsg : s'.si4Msg = s.si4Msg ∨ s'.si4Msg = msg := by
    have hheld : s'.si4Msg = ((IdentityPart.heard msgs).hear msg).si4Msg :=
      congrArg IdentityPart.si4Msg hk'
    rw [hheld, ← hk]
    unfold IdentityPart.hear
    repeat' split
    all_goals first | exact Or.inl rfl | exact Or.inr rfl
  rcases hmsg with hmsg | hmsg
  · rw [hmsg]
    exact hlen
  · rw [hmsg]
    exact Gsm48Sysinfo.length_of_bcchDecode hdecode

/-- The identity that is held, and the one that is printed, is that of the latest messages
exactly when these say the same where they are read. -/
theorem identity_read_iff (cfg : CatcherConfig) (env : Surroundings) {c : Catcher} {a : ℕ}
    (hc : tuned (c.startSync cfg env).2 = some a) {es : List (CatcherEvent × Surroundings)}
    (hes : tuned ((catcher cfg).run (c.startSync cfg env).1 es).2 = none) :
    (IdentityRead ((catcher cfg).run (c.startSync cfg env).1 es).1.sysinfo
        (Catcher.acceptedAlong cfg (c.startSync cfg env).1 es) ↔
      PlacesAgree (Catcher.acceptedAlong cfg (c.startSync cfg env).1 es)) ∧
    ∀ (networks : List GsmNetwork) (e : CatcherEvent × Surroundings) (s : Gsm48Sysinfo)
      (meas : RxMeasStat),
      .logSysinfo s meas ∈
        ((catcher cfg).step ((catcher cfg).run (c.startSync cfg env).1 es).1 e).2 →
      (IdentityPrinted networks s meas
          (Catcher.acceptedAlong cfg (c.startSync cfg env).1 (es ++ [e])) ↔
        PlacesAgree (Catcher.acceptedAlong cfg (c.startSync cfg env).1 (es ++ [e]))) := by
  have hstart : ∀ a, IdentityHeard { arfcn := a } [] := fun a => ⟨rfl, rfl⟩
  constructor
  · exact identityRead_iff
      (Catcher.held_accepted identityHeard_bsic identityHeard_decode hstart cfg env hc hes).1
  · intro networks e s meas hlog
    rw [identityPrinted_iff]
    exact identityRead_iff (Catcher.report_accepted identityHeard_bsic identityHeard_decode hstart
      cfg env hc hes (mem_reports.2 ⟨meas, hlog⟩)).1

/-- SI 3 and SI 4 of one cell, with MCC 262, MNC 01, LAC 0x1234 and cell identity 7. -/
def identitySi3 : Octets :=
  [0x49, 0x06, 0x1b, 0, 7, 0x62, 0xf2, 0x10, 0x12, 0x34] ++ List.replicate 9 0 ++
    List.replicate 4 0x2b

def identitySi4 : Octets :=
  [0x49, 0x06, 0x1c, 0x62, 0xf2, 0x10, 0x12, 0x34] ++ List.replicate 11 0 ++
    List.replicate 4 0x2b

def identityRun : List (CatcherEvent × Surroundings) :=
  (.fbsbResp 0, {}) :: bcchFrames [identitySi4, plainSi 0x19, identitySi3]

theorem identity_read_iff_plain :
    IdentityRead ((catcher {}).run (measuredCatcher.startSync {} {}).1 identityRun).1.sysinfo
      (Catcher.acceptedAlong {} (measuredCatcher.startSync {} {}).1 identityRun) :=
  ((identity_read_iff {} {} (c := measuredCatcher) (a := 20) (by decide +kernel)
    (by decide +kernel)).1).2 (by constructor <;> decide +kernel)

/-- An SI 6 whose cell identity is 0 is held with the identity 0x1e00. -/
theorem identity_read_early : ¬ ∀ (cfg : CatcherConfig) (env : Surroundings) (c : Catcher) (a : ℕ)
    (es : List (CatcherEvent × Surroundings)), tuned (c.startSync cfg env).2 = some a →
    tuned ((catcher cfg).run (c.startSync cfg env).1 es).2 = none →
    IdentityRead ((catcher cfg).run (c.startSync cfg env).1 es).1.sysinfo
      (Catcher.acceptedAlong cfg (c.startSync cfg env).1 es) := by
  intro h
  have hread := h {} {} measuredCatcher 20 ((.fbsbResp 0, {}) :: bcchFrames [plainSi 0x1e])
    (by decide +kernel) (by decide +kernel)
  have hcell := hread.cellId (plainSi 0x1e) (by decide +kernel)
  revert hcell
  decide +kernel

end ImsiCatcher

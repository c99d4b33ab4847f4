import ImsiCatcher.Masks
import ImsiCatcher.Reception

/-!
# Which ARFCNs a record marks as neighbours

The frequency table keeps a mark of its own for the lists of SI 2, SI 2bis and SI 2ter. Each
decoder clears its mark and sets it again, and no other message touches it, so that the marks
of a record are those of the latest message of each of the three types.
-/

namespace ImsiCatcher

def lastOf (type : ℕ) (msgs : List Octets) : Option Octets :=
  (msgs.filter fun msg => messageType msg = type).getLast?

theorem lastOf_concat (type : ℕ) (msgs : List Octets) (msg : Octets) :
    lastOf type (msgs ++ [msg]) = if messageType msg = type then some msg else lastOf type msgs := by
  unfold lastOf
  rw [List.filter_append]
  by_cases h : messageType msg = type
  · rw [if_pos h, List.filter_cons_of_pos (by simpa using h)]
    simp
  · rw [if_neg h, List.filter_cons_of_neg (by simpa using h)]
    simp

structure NeighbourPart where
  si2 : Bool := false
  si2bis : Bool := false
  nbExtIndSi2 : Bool := false
  marked2 : ℕ → Bool := fun _ => false
  marked2bis : ℕ → Bool := fun _ => false
  marked2ter : ℕ → Bool := fun _ => false

namespace Gsm48Sysinfo

def marked (s : Gsm48Sysinfo) (frqt : UInt8) (i : ℕ) : Bool := s.freq i &&& frqt ≠ 0

def neighbourPart (s : Gsm48Sysinfo) : NeighbourPart where
  si2 := s.si2
  si2bis := s.si2bis
  nbExtIndSi2 := s.nbExtIndSi2
  marked2 := s.marked freqTypeNcell2
  marked2bis := s.marked freqTypeNcell2bis
  marked2ter := s.marked freqTypeNcell2ter

end Gsm48Sysinfo

def listed (mask : UInt8) (msg : Octets) (i : ℕ) : Bool :=
  i ∈ gsm48DecodeFreqList (msg.drop 3) 16 mask

namespace NeighbourPart

def hear (k : NeighbourPart) (msg : Octets) : NeighbourPart :=
  if messageType msg = 0x1a then
    { k with
      si2 := true
      nbExtIndSi2 := bits (octet msg 3) 6 1 = 1
      marked2 := listed 0xce msg }
  else if messageType msg = 0x02 then { k with si2bis := true, marked2bis := listed 0xce msg }
  else if messageType msg = 0x03 then { k with marked2ter := listed 0x8e msg }
  else k

end NeighbourPart

/-! ### What the decoders do to the marks -/

theorem markFreqs_and_of_disjoint {frqt u : UInt8} (h : frqt &&& u = 0) (f : ℕ → UInt8)
    (marks : List ℕ) (i : ℕ) : markFreqs f frqt marks i &&& u = f i &&& u := by
  unfold markFreqs
  split
  · exact Masks.set_and_of_disjoint h _
  · exact Masks.clear_and_of_disjoint h _

namespace Gsm48Sysinfo

theorem marked_congr {s s' : Gsm48Sysinfo} {u : UInt8}
    (h : ∀ i, s'.freq i &&& u = s.freq i &&& u) : s'.marked u = s.marked u := by
  funext i
  unfold marked
  rw [h i]

theorem marked_decodeFreqList_of_disjoint {t u : UInt8} (h : t &&& u = 0)
    (s : Gsm48Sysinfo) (cd : Octets) (mask : UInt8) :
    (s.decodeFreqList cd mask t).marked u = s.marked u :=
  marked_congr fun i => markFreqs_and_of_disjoint h s.freq _ i

/-- The mark that a list sets is afterwards at the ARFCNs of that list. -/
theorem marked_decodeFreqList_self {frqt : UInt8} (hne : frqt ≠ 0) (s : Gsm48Sysinfo)
    (cd : Octets) (mask : UInt8) (i : ℕ) :
    (s.decodeFreqList cd mask frqt).marked frqt i =
      decide (i ∈ gsm48DecodeFreqList cd 16 mask) := by
  change decide (markFreqs s.freq frqt (gsm48DecodeFreqList cd 16 mask) i &&& frqt ≠ 0) = _
  unfold markFreqs
  by_cases hi : i ∈ gsm48DecodeFreqList cd 16 mask
  · rw [if_pos hi, Masks.set_and_self]
    simp [hi, hne]
  · rw [if_neg hi, Masks.clear_and_self]
    simp [hi]

theorem marked_of_ncell {s s' : Gsm48Sysinfo}
    (h : ∀ i, s'.freq i &&& freqTypeNcell = s.freq i &&& freqTypeNcell) {u : UInt8}
    (hu : freqTypeNcell &&& u = u) : s'.marked u = s.marked u := by
  apply marked_congr
  intro i
  rw [← hu, ← UInt8.and_assoc, ← UInt8.and_assoc, h i]

/-- Where the table shows the same neighbours, and the flags are the same, so is the part. -/
theorem neighbourPart_congr {s s' : Gsm48Sysinfo} (h2 : s'.si2 = s.si2)
    (h2bis : s'.si2bis = s.si2bis) (hext : s'.nbExtIndSi2 = s.nbExtIndSi2)
    (hfreq : ∀ i, s'.freq i &&& freqTypeNcell = s.freq i &&& freqTypeNcell) :
    s'.neighbourPart = s.neighbourPart := by
  unfold neighbourPart
  rw [h2, h2bis, hext, marked_of_ncell hfreq (u := freqTypeNcell2) rfl,
    marked_of_ncell hfreq (u := freqTypeNcell2bis) rfl,
    marked_of_ncell hfreq (u := freqTypeNcell2ter) rfl]

theorem gsm48DecodeMobileAlloc_neighbourPart (s : Gsm48Sysinfo) (ma : Octets) (len : ℕ) :
    (s.gsm48DecodeMobileAlloc ma len).neighbourPart = s.neighbourPart := by
  unfold gsm48DecodeMobileAlloc
  split
  · rfl
  · extract_lets freq f used hopping
    refine neighbourPart_congr rfl rfl rfl ?_
    intro i
    have hclear : freq i &&& freqTypeNcell = s.freq i &&& freqTypeNcell :=
      Masks.clear_and_of_disjoint rfl _
    rw [← hclear]
    exact markFreqs_and_of_disjoint rfl freq hopping i

theorem decodeCbchMobAl_neighbourPart (s : Gsm48Sysinfo) (data : Octets) :
    (s.decodeCbchMobAl data).neighbourPart = s.neighbourPart := by
  unfold decodeCbchMobAl
  split
  · split
    · rfl
    · extract_lets t
      have ht : t.neighbourPart = s.neighbourPart := by
        unfold t
        split
        · rfl
        · exact gsm48DecodeMobileAlloc_neighbourPart s _ _
      exact ht
  · rfl

theorem gsm48DecodeSysinfo4_neighbourPart (s : Gsm48Sysinfo) (si : Octets) :
    (s.gsm48DecodeSysinfo4 si).neighbourPart = s.neighbourPart := by
  unfold gsm48DecodeSysinfo4
  extract_lets data s1 s2
  have h2 : s2.neighbourPart = s.neighbourPart := rfl
  split
  · split
    · exact h2
    · rw [decodeCbchMobAl_neighbourPart, ← h2]
      unfold decodeCbchChanDesc
      extract_lets cd
      split <;> rfl
  · rw [decodeCbchMobAl_neighbourPart, h2]

theorem gsm48DecodeSysinfo1_neighbourPart (s : Gsm48Sysinfo) (si : Octets) :
    (s.gsm48DecodeSysinfo1 si).neighbourPart = s.neighbourPart := by
  unfold gsm48DecodeSysinfo1
  extract_lets s1 s2 rest s3 s4
  have h4 : s4.neighbourPart = s.neighbourPart := by
    have h3 : s3.neighbourPart = s2.neighbourPart := by
      unfold s3
      split <;> rfl
    refine Eq.trans h3 ?_
    refine neighbourPart_congr rfl rfl rfl ?_
    intro i
    exact markFreqs_and_of_disjoint rfl s1.freq _ i
  split
  · rw [gsm48DecodeSysinfo4_neighbourPart, h4]
  · exact h4

theorem gsm48DecodeSysinfo3_neighbourPart (s : Gsm48Sysinfo) (si : Octets) :
    (s.gsm48DecodeSysinfo3 si).neighbourPart = s.neighbourPart := by
  unfold gsm48DecodeSysinfo3
  extract_lets s1 s2 s3 rest s4
  have h4 : s4.neighbourPart = s.neighbourPart := by
    unfold s4
    split <;> rfl
  exact h4

theorem gsm48DecodeSysinfo2_neighbourPart (s : Gsm48Sysinfo) (si : Octets) :
    (s.gsm48DecodeSysinfo2 si).neighbourPart = { s.neighbourPart with
      si2 := true
      nbExtIndSi2 := bits (octet si 3) 6 1 = 1
      marked2 := listed 0xce si } := by
  unfold gsm48DecodeSysinfo2
  extract_lets t
  have hself : (t.decodeFreqList (si.drop 3) 0xce freqTypeNcell2).marked freqTypeNcell2 =
      listed 0xce si := funext (marked_decodeFreqList_self (by decide) t _ _)
  have hbis := marked_decodeFreqList_of_disjoint (t := freqTypeNcell2)
    (u := freqTypeNcell2bis) rfl t (si.drop 3) 0xce
  have hter := marked_decodeFreqList_of_disjoint (t := freqTypeNcell2)
    (u := freqTypeNcell2ter) rfl t (si.drop 3) 0xce
  exact NeighbourPart.mk.injEq .. |>.mpr ⟨rfl, rfl, rfl, hself, hbis, hter⟩

theorem gsm48DecodeSysinfo2bis_neighbourPart (s : Gsm48Sysinfo) (si : Octets) :
    (s.gsm48DecodeSysinfo2bis si).neighbourPart = { s.neighbourPart with
      si2bis := true
      marked2bis := listed 0xce si } := by
  unfold gsm48DecodeSysinfo2bis
  extract_lets t
  have hself : (t.decodeFreqList (si.drop 3) 0xce freqTypeNcell2bis).marked freqTypeNcell2bis =
      listed 0xce si := funext (marked_decodeFreqList_self (by decide) t _ _)
  have h2 := marked_decodeFreqList_of_disjoint (t := freqTypeNcell2bis)
    (u := freqTypeNcell2) rfl t (si.drop 3) 0xce
  have hter := marked_decodeFreqList_of_disjoint (t := freqTypeNcell2bis)
    (u := freqTypeNcell2ter) rfl t (si.drop 3) 0xce
  exact NeighbourPart.mk.injEq .. |>.mpr ⟨rfl, rfl, rfl, h2, hself, hter⟩

theorem gsm48DecodeSysinfo2ter_neighbourPart (s : Gsm48Sysinfo) (si : Octets) :
    (s.gsm48DecodeSysinfo2ter si).neighbourPart = { s.neighbourPart with
      marked2ter := listed 0x8e si } := by
  unfold gsm48DecodeSysinfo2ter
  extract_lets t
  have hself : (t.decodeFreqList (si.drop 3) 0x8e freqTypeNcell2ter).marked freqTypeNcell2ter =
      listed 0x8e si := funext (marked_decodeFreqList_self (by decide) t _ _)
  have h2 := marked_decodeFreqList_of_disjoint (t := freqTypeNcell2ter)
    (u := freqTypeNcell2) rfl t (si.drop 3) 0x8e
  have hbis := marked_decodeFreqList_of_disjoint (t := freqTypeNcell2ter)
    (u := freqTypeNcell2bis) rfl t (si.drop 3) 0x8e
  exact NeighbourPart.mk.injEq .. |>.mpr ⟨rfl, rfl, rfl, h2, hbis, hself⟩

theorem bcchDecode_neighbourPart {s s' : Gsm48Sysinfo} {msg : Octets}
    (h : s.bcchDecode msg = some s') : s'.neighbourPart = s.neighbourPart.hear msg := by
  have hkept : ∀ t : Gsm48Sysinfo, t.neighbourPart = s.neighbourPart → messageType msg ≠ 0x1a →
      messageType msg ≠ 0x02 → messageType msg ≠ 0x03 →
      t.neighbourPart = s.neighbourPart.hear msg := by
    intro t ht h2 hbis hter
    rw [ht, NeighbourPart.hear, if_neg h2, if_neg hbis, if_neg hter]
  apply bcchDecode_some h
  case si1 =>
    intro ht
    exact hkept _ (gsm48DecodeSysinfo1_neighbourPart s msg) (by omega) (by omega) (by omega)
  case si2 =>
    intro ht
    rw [gsm48DecodeSysinfo2_neighbourPart, NeighbourPart.hear, if_pos ht]
  case si2bis =>
    intro ht
    rw [gsm48DecodeSysinfo2bis_neighbourPart, NeighbourPart.hear, if_neg (by omega), if_pos ht]
  case si2ter =>
    intro ht
    rw [gsm48DecodeSysinfo2ter_neighbourPart, NeighbourPart.hear, if_neg (by omega),
      if_neg (by omega), if_pos ht]
  case si3 =>
    intro ht
    exact hkept _ (gsm48DecodeSysinfo3_neighbourPart s msg) (by omega) (by omega) (by omega)
  case si4 =>
    intro ht
    exact hkept _ (gsm48DecodeSysinfo4_neighbourPart s msg) (by omega) (by omega) (by omega)
  case si5 =>
    intro ht
    refine hkept _ ?_ (by omega) (by omega) (by omega)
    exact neighbourPart_congr rfl rfl rfl fun i => markFreqs_and_of_disjoint rfl s.freq _ i
  case si5bis =>
    intro ht
    refine hkept _ ?_ (by omega) (by omega) (by omega)
    exact neighbourPart_congr rfl rfl rfl fun i => markFreqs_and_of_disjoint rfl s.freq _ i
  case si5ter =>
    intro ht
    refine hkept _ ?_ (by omega) (by omega) (by omega)
    exact neighbourPart_congr rfl rfl rfl fun i => markFreqs_and_of_disjoint rfl s.freq _ i
  case si6 =>
    intro ht
    exact hkept _ rfl (by omega) (by omega) (by omega)

end Gsm48Sysinfo

/-! ### The marks along a run -/

namespace NeighbourPart

def heard (msgs : List Octets) : NeighbourPart := msgs.foldl hear {}

theorem heard_concat (msgs : List Octets) (msg : Octets) :
    heard (msgs ++ [msg]) = (heard msgs).hear msg := List.foldl_concat ..

/-- What is heard is what the latest messages say. -/
theorem heard_eq (msgs : List Octets) : heard msgs = {
    si2 := (lastOf 0x1a msgs).isSome
    si2bis := (lastOf 0x02 msgs).isSome
    nbExtIndSi2 := (lastOf 0x1a msgs).any fun msg => bits (octet msg 3) 6 1 = 1
    marked2 := fun i => (lastOf 0x1a msgs).any fun msg => listed 0xce msg i
    marked2bis := fun i => (lastOf 0x02 msgs).any fun msg => listed 0xce msg i
    marked2ter := fun i => (lastOf 0x03 msgs).any fun msg => listed 0x8e msg i } := by
  induction msgs using List.reverseRecOn with
  | nil => rfl
  | append_singleton msgs msg ih =>
    rw [heard_concat, ih]
    simp only [lastOf_concat, hear]
    by_cases h2 : messageType msg = 0x1a
    · simp [h2]
    by_cases hbis : messageType msg = 0x02
    · simp [hbis]
    by_cases hter : messageType msg = 0x03
    · simp [hter]
    · simp [h2, hbis, hter]

end NeighbourPart

/-- What a record that is printed after a synchronisation holds of its neighbours. -/
theorem Catcher.report_neighbours (cfg : CatcherConfig) (env : Surroundings) {c : Catcher} {a : ℕ}
    (hc : tuned (c.startSync cfg env).2 = some a) {es : List (CatcherEvent × Surroundings)}
    (hes : tuned ((catcher cfg).run (c.startSync cfg env).1 es).2 = none)
    {e : CatcherEvent × Surroundings} {s : Gsm48Sysinfo}
    (hs : s ∈ reports (step cfg ((catcher cfg).run (c.startSync cfg env).1 es).1 e).2) :
    s.neighbourPart =
      .heard (acceptedAlong cfg (c.startSync cfg env).1 (es ++ [e])) := by
  refine report_accepted (I := fun s msgs => s.neighbourPart = .heard msgs) ?_ ?_ ?_ cfg env hc
    hes hs
  · intro s msgs bsic h
    exact h
  · intro s msgs msg s' h hdecode
    rw [NeighbourPart.heard_concat, ← h]
    exact Gsm48Sysinfo.bcchDecode_neighbourPart hdecode
  · intro a
    have hnone : ∀ u, Gsm48Sysinfo.marked { arfcn := a } u = fun _ => false := by
      intro u
      funext i
      simp [Gsm48Sysinfo.marked]
    simp only [Gsm48Sysinfo.neighbourPart, hnone, NeighbourPart.heard, List.foldl_nil]

end ImsiCatcher

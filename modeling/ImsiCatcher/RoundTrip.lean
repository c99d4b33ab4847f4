import ImsiCatcher.ScanDelivery

/-!
# Printing and parsing back

A record that the parser makes of a block is compared with what the block says. The lists of
octets never come back as they were printed, since each begins with an empty text; apart from
that, a block comes back if its country is one word, its provider has a name and an SI 2bis
does not come without an SI 2ter.
-/

namespace ImsiCatcher

structure Gsm48Sysinfo.FrameArrays (s : Gsm48Sysinfo) : Prop where
  si1 : s.si1Msg.length = 23
  si2 : s.si2Msg.length = 23
  si2bis : s.si2bMsg.length = 23
  si2ter : s.si2tMsg.length = 23
  si3 : s.si3Msg.length = 23
  si4 : s.si4Msg.length = 23

def printedOctets (received : Bool) (data : Octets) : List Text :=
  if received then octetTexts data else []

/-- The record says what the block says behind the country, its lists of octets seen through
`view`. -/
structure FieldsBack (view : List Text → List Text) (networks : List GsmNetwork) (p : CellPrint)
    (b : BaseStationInformation) : Prop where
  provider : b.provider = gsmGetMnc networks p.sysinfo.mcc p.sysinfo.mnc
  arfcn : b.arfcn = p.sysinfo.arfcn
  cell : b.cell = p.sysinfo.cellId
  lac : b.lac = p.sysinfo.lac
  bsic : b.bsic = Text.decimal (p.sysinfo.bsic >>> 3) ++ [','] ++ Text.decimal (p.sysinfo.bsic &&& 7)
  rxlev : b.rxlev = p.meas.meanRxlev
  neighbours : b.neighbours = p.sysinfo.printedNeighbours.map fun a => (a : ℤ)
  t1 : view b.systemInfoT1 = printedOctets p.sysinfo.si1 p.sysinfo.si1Msg
  t3 : view b.systemInfoT3 = printedOctets p.sysinfo.si3 p.sysinfo.si3Msg
  t4 : view b.systemInfoT4 = printedOctets p.sysinfo.si4 p.sysinfo.si4Msg
  t2 : view b.systemInfoT2 = printedOctets p.sysinfo.si2 p.sysinfo.si2Msg
  t2ter : view b.systemInfoT2ter = printedOctets p.sysinfo.si2ter p.sysinfo.si2tMsg
  t2bis : view b.systemInfoT2bis = printedOctets p.sysinfo.si2bis p.sysinfo.si2bMsg

structure ReadBack (view : List Text → List Text) (networks : List GsmNetwork) (p : CellPrint)
    (b : BaseStationInformation) : Prop extends FieldsBack view networks p b where
  country : b.country = gsmGetMcc networks p.sysinfo.mcc

/-- The provider has a name, the level more than one digit, or the one that a record has anyway,
and the frames come in the places where they are looked for. -/
structure FieldsReadable (networks : List GsmNetwork) (p : CellPrint) : Prop where
  provider : gsmGetMnc networks p.sysinfo.mcc p.sysinfo.mnc ≠ []
  rxlev : ¬(0 < p.meas.meanRxlev ∧ p.meas.meanRxlev < 10)
  frames : p.sysinfo.si2bis → p.sysinfo.si2ter

/-- The country, in addition, is one word. -/
structure Readable (networks : List GsmNetwork) (p : CellPrint) : Prop
    extends FieldsReadable networks p where
  country : gsmGetMcc networks p.sysinfo.mcc ≠ [] ∧
    ∀ c ∈ gsmGetMcc networks p.sysinfo.mcc, Text.isWord c = true

theorem frameTexts_of_length {data : Octets} (h : data.length = 23) :
    frameTexts data = [] :: octetTexts data := by
  refine if_neg ?_
  rintro rfl
  exact absurd h (by decide)

theorem octetTexts_ne_nil {data : Octets} (h : data.length = 23) : octetTexts data ≠ [] := by
  intro hnil
  have hlen := congrArg List.length hnil
  simp [octetTexts, h] at hlen

namespace Taken
variable {networks : List GsmNetwork} {p : CellPrint} {b : BaseStationInformation}
  (h : Taken networks p.sysinfo p.meas b) (hframes : p.sysinfo.FrameArrays)
include h hframes

theorem not_readBack : ¬ ReadBack id networks p b := by
  intro hback
  have ht1 := hback.t1
  rw [h.t1, frameTexts_of_length hframes.si1, printedOctets, if_pos p.si1] at ht1
  exact absurd (congrArg List.length ht1) (by simp)

/-- A message that is received comes back without the text at the head of its list. -/
theorem fieldsBack_iff (hnames : ∀ n ∈ networks, '\n' ∉ n.name) :
    FieldsBack (List.drop 1) networks p b ↔ FieldsReadable networks p := by
  have hprovider := provider_eq_iff
    (newline_notMem_gsmGetMnc hnames p.sysinfo.mcc p.sysinfo.mnc)
  rw [← h.provider] at hprovider
  have hframe : ∀ {data : Octets}, data.length = 23 → (frameTexts data).drop 1 = octetTexts data := by
    intro data hdata
    rw [frameTexts_of_length hdata]
    rfl
  constructor
  · intro hback
    refine ⟨hprovider.1 hback.provider, ?_, ?_⟩
    · intro hlevel
      have hrxlev := hback.rxlev
      rw [h.rxlev, if_pos (by omega)] at hrxlev
      omega
    · intro hbis
      by_contra hter
      have ht2bis := hback.t2bis
      rw [h.t2bis, if_neg fun hboth => hter hboth.1, printedOctets, if_pos hbis] at ht2bis
      exact octetTexts_ne_nil hframes.si2bis ht2bis.symm
  · intro hread
    constructor
    case provider => exact hprovider.2 hread.provider
    case arfcn => exact h.arfcn
    case cell => exact h.cell
    case lac => exact h.lac
    case bsic => exact h.bsic
    case rxlev =>
      have hlevel := hread.rxlev
      rw [h.rxlev]
      split <;> omega
    case neighbours => exact h.neighbours
    case t1 => rw [h.t1, hframe hframes.si1, printedOctets, if_pos p.si1]
    case t3 => rw [h.t3, hframe hframes.si3, printedOctets, if_pos p.si3]
    case t4 => rw [h.t4, hframe hframes.si4, printedOctets, if_pos p.si4]
    case t2 => rw [h.t2, hframe hframes.si2, printedOctets, if_pos p.si2]
    case t2ter =>
      rw [h.t2ter, printedOctets]
      split
      · exact hframe hframes.si2ter
      · rfl
    case t2bis =>
      rw [h.t2bis, printedOctets]
      by_cases hbis : p.sysinfo.si2bis = true
      · rw [if_pos ⟨hread.frames hbis, hbis⟩, if_pos hbis]
        exact hframe hframes.si2bis
      · rw [if_neg fun hboth => hbis hboth.2, if_neg hbis]
        rfl

theorem readBack_iff (hnames : ∀ n ∈ networks, '\n' ∉ n.name) :
    ReadBack (List.drop 1) networks p b ↔ Readable networks p := by
  have hfields := h.fieldsBack_iff hframes hnames
  have hcountry := country_eq_iff (gsmGetMcc networks p.sysinfo.mcc)
  rw [← h.country] at hcountry
  constructor
  · rintro ⟨hback, heq⟩
    exact ⟨hfields.1 hback, hcountry.1 heq⟩
  · rintro ⟨hread, hword⟩
    exact ⟨hfields.2 hread, hcountry.2 hword⟩

end Taken

/-- No block comes back as it was printed. With the empty text at the head of the lists of octets
left out, a block comes back exactly if it is readable. -/
theorem scanned_readBack {networks : List GsmNetwork} (hnames : ∀ n ∈ networks, '\n' ∉ n.name)
    (before : List QuietLine) (prints : List CellPrint)
    (hne : ∀ p ∈ prints, p.sysinfo.printedNeighbours ≠ [])
    (hframes : ∀ p ∈ prints, p.sysinfo.FrameArrays) {n : ℕ}
    (hn : (Text.lines (scanOutput networks before prints)).length ≤ n) :
    List.Forall₂ (fun p sighting => ¬ ReadBack id networks p sighting.station ∧
      (ReadBack (List.drop 1) networks p sighting.station ↔ Readable networks p))
      prints (scanned networks before prints n).found := by
  obtain ⟨sightings, htaken, hends⟩ := ends_prints networks hne []
  have hall := ScanThread.Ends.skip (quiet_map before) hends
  rw [← lines_scanOutput hnames] at hall
  have hrun : scanned networks before prints n = _ := hall.run_eq hn
  rw [hrun]
  refine ((List.forall₂_and_left _ _).2 ⟨hframes, htaken⟩).imp ?_
  rintro p sighting ⟨hp, htaken⟩
  exact ⟨htaken.not_readBack hp, htaken.readBack_iff hp hnames⟩

theorem frameArrays_cellPrint (marked : List ℕ) : (cellPrint marked).sysinfo.FrameArrays :=
  ⟨rfl, rfl, rfl, rfl, rfl, rfl⟩

theorem scanned_readBack_pair : List.Forall₂ (fun p sighting =>
    ¬ ReadBack id [] p sighting.station ∧
      (ReadBack (List.drop 1) [] p sighting.station ↔ Readable [] p))
    [cellPrint [30], cellPrint [20, 40]]
    (scanned [] [syncLine] [cellPrint [30], cellPrint [20, 40]] 40).found :=
  scanned_readBack (by simp) [syncLine] [cellPrint [30], cellPrint [20, 40]] (by decide +kernel)
    (by simp [frameArrays_cellPrint]) (by decide +kernel)

/-- The list of octets of an SI 1 has 24 elements, the first of them empty. -/
theorem scanned_not_readBack : ¬ ∀ (networks : List GsmNetwork) (before : List QuietLine)
    (p : CellPrint) (n : ℕ), (∀ n ∈ networks, '\n' ∉ n.name) →
    p.sysinfo.printedNeighbours ≠ [] → p.sysinfo.FrameArrays →
    -110 ≤ p.meas.meanRxlev → p.meas.meanRxlev ≤ -47 →
    (Text.lines (scanOutput networks before [p])).length ≤ n →
    ∀ sighting ∈ (scanned networks before [p] n).found,
      ReadBack id networks p sighting.station := by
  intro h
  have hback := h [] [] (cellPrint [30]) 40 (by simp) (by decide +kernel)
    (frameArrays_cellPrint [30]) (by decide +kernel) (by decide +kernel) (by decide +kernel)
  have hlist : ∃ sighting ∈ (scanned [] [] [cellPrint [30]] 40).found,
      sighting.station.systemInfoT1.length = 24 := by
    decide +kernel
  obtain ⟨sighting, hmem, hlen⟩ := hlist
  have ht1 := congrArg List.length (hback sighting hmem).t1
  rw [id_eq, hlen] at ht1
  exact absurd ht1 (by decide)

end ImsiCatcher

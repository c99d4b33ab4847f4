import ImsiCatcher.StationRecord

/-!
# What the parser delivers

The output of a scan is made of the blocks that `log_sysinfo` prints for complete records and
of lines that do not announce one. Each block is followed by at least one such line: the
scanner logs one when it tunes to the next ARFCN.
-/

namespace ImsiCatcher

abbrev QuietLine := { l : Text // Text.IsLine l ∧ Text.contains "SysInfo".toList l = false }

structure CellPrint where
  sysinfo : Gsm48Sysinfo
  meas : RxMeasStat
  after : List QuietLine
  si1 : sysinfo.si1 = true
  si2 : sysinfo.si2 = true
  si3 : sysinfo.si3 = true
  si4 : sysinfo.si4 = true
  after_ne_nil : after ≠ []

def CellPrint.place (p : CellPrint) : ℤ × ℤ × ℤ :=
  (p.sysinfo.arfcn, p.sysinfo.cellId, p.sysinfo.lac)

def Sighting.place (sighting : Sighting) : ℤ × ℤ × ℤ :=
  (sighting.station.arfcn, sighting.station.cell, sighting.station.lac)

def scanOutput (networks : List GsmNetwork) (before : List QuietLine) (prints : List CellPrint) :
    Text :=
  (before.map (·.1)).flatten ++
    prints.flatMap fun p => logSysinfo networks p.sysinfo p.meas ++ (p.after.map (·.1)).flatten

def scanned (networks : List GsmNetwork) (before : List QuietLine) (prints : List CellPrint)
    (n : ℕ) : ScanThread :=
  ScanThread.run n ⟨Text.lines (scanOutput networks before prints), [], false⟩

/-! ### The lines of the output -/

def CellPrint.lines (networks : List GsmNetwork) (p : CellPrint) : List Text :=
  sysinfoLines networks p.sysinfo p.meas ++ p.after.map (·.1)

theorem isLine_cellPrint_lines {networks : List GsmNetwork}
    (hnames : ∀ n ∈ networks, '\n' ∉ n.name) (p : CellPrint) :
    ∀ l ∈ p.lines networks, Text.IsLine l := by
  intro l hl
  rcases List.mem_append.1 hl with hl | hl
  · exact isLine_sysinfoLines hnames p.sysinfo p.meas l hl
  · obtain ⟨q, -, rfl⟩ := List.mem_map.1 hl
    exact q.2.1

theorem lines_scanOutput {networks : List GsmNetwork} (hnames : ∀ n ∈ networks, '\n' ∉ n.name)
    (before : List QuietLine) (prints : List CellPrint) :
    Text.lines (scanOutput networks before prints) =
      before.map (·.1) ++ prints.flatMap (CellPrint.lines networks) := by
  have hflatten : scanOutput networks before prints =
      (before.map (·.1) ++ prints.flatMap (CellPrint.lines networks)).flatten := by
    unfold scanOutput
    rw [List.flatten_append]
    congr 1
    induction prints with
    | nil => rfl
    | cons p prints ih =>
      rw [List.flatMap_cons, List.flatMap_cons, List.flatten_append, ih]
      unfold CellPrint.lines
      rw [List.flatten_append]
      rfl
  rw [hflatten]
  apply Text.lines_flatten
  intro l hl
  rcases List.mem_append.1 hl with hl | hl
  · obtain ⟨q, _, rfl⟩ := List.mem_map.1 hl
    exact q.2.1
  · obtain ⟨p, _, hl⟩ := List.mem_flatMap.1 hl
    exact isLine_cellPrint_lines hnames p l hl

/-! ### One block -/

/-- The parser leaves no line of a block that would announce another record. -/
theorem drop_cellPrint_lines (networks : List GsmNetwork) (p : CellPrint) (tail : List Text) :
    ∃ quiet : List Text, ((p.lines networks).tail ++ tail).drop 15 = quiet ++ tail ∧
      ∀ l ∈ quiet, Text.contains "SysInfo".toList l = false := by
  have hframes := length_frameLines p.si1 p.si2 p.si3 p.si4
  have hter := Bool.toNat_le p.sysinfo.si2ter
  have hbis := Bool.toNat_le p.sysinfo.si2bis
  let block := parameterLines networks p.sysinfo p.meas ++ frameLines p.sysinfo ++
    [logLine "[EndInfo]" []]
  have hblock : block.length = 13 + p.sysinfo.si2ter.toNat + p.sysinfo.si2bis.toNat := by
    simp only [block, List.length_append, hframes]
    change 8 + _ + 1 = _
    omega
  have hsplit : (p.lines networks).tail = block ++ (logLine "" [] :: p.after.map (·.1)) := by
    unfold CellPrint.lines
    rw [sysinfoLines_eq]
    simp [block]
  have hafter : 1 ≤ (p.after.map (·.1)).length := by
    rw [List.length_map]
    exact List.length_pos_of_ne_nil p.after_ne_nil
  refine ⟨(logLine "" [] :: p.after.map (·.1)).drop (15 - block.length), ?_, ?_⟩
  · have hshort : block.length ≤ 15 := by omega
    rw [hsplit, List.append_assoc, List.drop_append, List.drop_eq_nil_of_le hshort,
      List.nil_append]
    apply List.drop_append_of_le_length
    rw [List.length_cons]
    omega
  · intro l hl
    rcases List.mem_cons.1 (List.mem_of_mem_drop hl) with rfl | hl
    · decide
    · obtain ⟨q, _, rfl⟩ := List.mem_map.1 hl
      exact q.2.2

theorem contains_head (networks : List GsmNetwork) (p : CellPrint) (tail : List Text) :
    p.lines networks ++ tail = logLine "[SysInfo]" [] :: ((p.lines networks).tail ++ tail) ∧
      Text.contains "SysInfo".toList (logLine "[SysInfo]" []) = true :=
  ⟨rfl, by decide⟩

/-- A block with neighbours is handed over. -/
theorem ends_block (networks : List GsmNetwork) {p : CellPrint}
    (hne : p.sysinfo.printedNeighbours ≠ []) (tail : List Text) (found : List Sighting) :
    ∃ sighting : Sighting, Taken networks p.sysinfo p.meas sighting.station ∧
      ∀ r, ScanThread.Ends ⟨tail, found ++ [sighting], false⟩ r →
        ScanThread.Ends ⟨p.lines networks ++ tail, found, false⟩ r := by
  obtain ⟨hcons, hhead⟩ := contains_head networks p tail
  obtain ⟨sighting, hparse, htaken⟩ := parseStation_block networks p.meas p.si1 p.si2 p.si3 p.si4
    hne (p.after.map (·.1) ++ tail)
  rw [← List.append_assoc] at hparse
  change parseStation (fun i => ((p.lines networks).tail ++ tail).getD i []) = _ at hparse
  obtain ⟨quiet, hdrop, hquiet⟩ := drop_cellPrint_lines networks p tail
  refine ⟨sighting, htaken, ?_⟩
  intro r hr
  rw [hcons]
  apply ScanThread.Ends.record hhead hparse
  rw [hdrop]
  exact ScanThread.Ends.skip hquiet hr

/-- A block without neighbours ends the thread. -/
theorem ends_block_raised (networks : List GsmNetwork) {p : CellPrint}
    (hnil : p.sysinfo.printedNeighbours = []) (tail : List Text) (found : List Sighting) :
    ScanThread.Ends ⟨p.lines networks ++ tail, found, false⟩
      ⟨(p.lines networks).tail ++ tail, found, true⟩ := by
  obtain ⟨hcons, hhead⟩ := contains_head networks p tail
  rw [hcons]
  apply ScanThread.ends_raised hhead
  exact parseStation_of_nil _ rfl rfl rfl rfl rfl hnil

/-! ### The whole output -/

theorem ends_prints (networks : List GsmNetwork) {prints : List CellPrint}
    (hne : ∀ p ∈ prints, p.sysinfo.printedNeighbours ≠ []) (found : List Sighting) :
    ∃ sightings : List Sighting,
      List.Forall₂ (fun p sighting => Taken networks p.sysinfo p.meas sighting.station) prints
        sightings ∧
      ScanThread.Ends ⟨prints.flatMap (CellPrint.lines networks), found, false⟩
        ⟨[], found ++ sightings, false⟩ := by
  induction prints generalizing found with
  | nil => exact ⟨[], List.Forall₂.nil, by simpa using ScanThread.ends_nil found⟩
  | cons p prints ih =>
    obtain ⟨sighting, htaken, hblock⟩ := ends_block networks
      (hne p List.mem_cons_self) (prints.flatMap (CellPrint.lines networks)) found
    obtain ⟨sightings, hall, hends⟩ :=
      ih (fun q hq => hne q (List.mem_cons_of_mem _ hq)) (found ++ [sighting])
    refine ⟨sighting :: sightings, List.Forall₂.cons htaken hall, ?_⟩
    rw [List.flatMap_cons]
    apply hblock
    rw [List.append_assoc, List.singleton_append] at hends
    exact hends

theorem map_place_of_taken {networks : List GsmNetwork} {prints : List CellPrint}
    {sightings : List Sighting}
    (h : List.Forall₂ (fun p sighting => Taken networks p.sysinfo p.meas sighting.station) prints
      sightings) : sightings.map Sighting.place = prints.map CellPrint.place := by
  induction h with
  | nil => rfl
  | cons htaken _ ih =>
    rw [List.map_cons, List.map_cons, ih, Sighting.place, htaken.arfcn, htaken.cell, htaken.lac]
    rfl

theorem ends_prints_raised (networks : List GsmNetwork) {prints : List CellPrint}
    (hnil : ∃ p ∈ prints, p.sysinfo.printedNeighbours = []) (found : List Sighting) :
    ∃ r, r.raised = true ∧
      ScanThread.Ends ⟨prints.flatMap (CellPrint.lines networks), found, false⟩ r := by
  induction prints generalizing found with
  | nil =>
    obtain ⟨p, hp, _⟩ := hnil
    exact absurd hp List.not_mem_nil
  | cons p prints ih =>
    rw [List.flatMap_cons]
    by_cases hp : p.sysinfo.printedNeighbours = []
    · exact ⟨_, rfl, ends_block_raised networks hp _ found⟩
    · have hrest : ∃ q ∈ prints, q.sysinfo.printedNeighbours = [] := by
        obtain ⟨q, hq, hqnil⟩ := hnil
        rcases List.mem_cons.1 hq with rfl | hq
        · exact absurd hqnil hp
        · exact ⟨q, hq, hqnil⟩
      obtain ⟨sighting, _, hblock⟩ := ends_block networks hp
        (prints.flatMap (CellPrint.lines networks)) found
      obtain ⟨r, hraised, hends⟩ := ih hrest (found ++ [sighting])
      exact ⟨r, hraised, hblock r hends⟩

theorem quiet_map (before : List QuietLine) :
    ∀ l ∈ before.map (·.1), Text.contains "SysInfo".toList l = false := by
  intro l hl
  obtain ⟨q, _, rfl⟩ := List.mem_map.1 hl
  exact q.2.2

/-- Every cell is delivered, in the order of the output and without an exception, if and only
if no printed neighbour list is empty. -/
theorem scanned_delivers_iff {networks : List GsmNetwork}
    (hnames : ∀ n ∈ networks, '\n' ∉ n.name) (before : List QuietLine)
    (prints : List CellPrint) :
    (∀ n, (Text.lines (scanOutput networks before prints)).length ≤ n →
        (scanned networks before prints n).raised = false ∧
        (scanned networks before prints n).found.map Sighting.place =
          prints.map CellPrint.place) ↔
      ∀ p ∈ prints, p.sysinfo.printedNeighbours ≠ [] := by
  have hlines := lines_scanOutput hnames before prints
  have hends : ∀ r, ScanThread.Ends ⟨prints.flatMap (CellPrint.lines networks), [], false⟩ r →
      ∀ n, (Text.lines (scanOutput networks before prints)).length ≤ n →
        scanned networks before prints n = r := by
    intro r hr n hn
    have hall := ScanThread.Ends.skip (quiet_map before) hr
    rw [← hlines] at hall
    exact hall.run_eq hn
  constructor
  · intro hdelivers p hp hnil
    obtain ⟨r, hraised, hr⟩ := ends_prints_raised networks ⟨p, hp, hnil⟩ []
    obtain ⟨hcontinues, _⟩ := hdelivers _ le_rfl
    rw [hends r hr _ le_rfl, hraised] at hcontinues
    exact absurd hcontinues (by decide)
  · intro hne n hn
    obtain ⟨sightings, htaken, hr⟩ := ends_prints networks hne []
    rw [hends _ hr n hn]
    exact ⟨rfl, map_place_of_taken htaken⟩

def syncLine : QuietLine := ⟨"Sync ARFCN 21\n".toList, ⟨"Sync ARFCN 21".toList, by decide, rfl⟩,
  by decide⟩

def cellPrint (marked : List ℕ) : CellPrint where
  sysinfo := { si1 := true, si2 := true, si3 := true, si4 := true, arfcn := 20, cellId := 100,
               lac := 5, freq := markFreqs (fun _ => 0) freqTypeNcell2 marked }
  meas := { frames := 1, rxlev := 60 }
  after := [syncLine]
  si1 := rfl
  si2 := rfl
  si3 := rfl
  si4 := rfl
  after_ne_nil := by simp

theorem scanned_delivers_iff_pair :
    (scanned [] [syncLine] [cellPrint [30], cellPrint [20, 40]] 40).raised = false ∧
      (scanned [] [syncLine] [cellPrint [30], cellPrint [20, 40]] 40).found.map Sighting.place =
        [(20, 100, 5), (20, 100, 5)] :=
  (scanned_delivers_iff (by simp) [syncLine] [cellPrint [30], cellPrint [20, 40]]).2
    (by decide +kernel) 40 (by decide +kernel)

/-- A cell without neighbours ends the thread, and the cell behind it is not delivered. -/
theorem scanned_raises_alone :
    ¬ ∀ n, (Text.lines (scanOutput [] [] [cellPrint [], cellPrint [30]])).length ≤ n →
      (scanned [] [] [cellPrint [], cellPrint [30]] n).raised = false ∧
      (scanned [] [] [cellPrint [], cellPrint [30]] n).found.map Sighting.place =
        [cellPrint [], cellPrint [30]].map CellPrint.place := by
  intro h
  have hraised : (scanned [] [] [cellPrint [], cellPrint [30]] 40).raised = true := by
    decide +kernel
  have hcontinues := (h 40 (by decide +kernel)).1
  rw [hraised] at hcontinues
  exact absurd hcontinues (by decide)

end ImsiCatcher

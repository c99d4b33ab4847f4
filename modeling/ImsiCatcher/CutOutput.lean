import ImsiCatcher.RoundTrip

/-!
# Output that is cut off

The process may end in the middle of a block. Behind its end `readline` returns the empty
string, which no expression matches, so that the parser hands over a record with the defaults
of what was not read. Only a cut within the neighbour list, before its first blank, has `int`
raise an exception instead.
-/

namespace ImsiCatcher

/-! ### Fields of a line that is cut off -/

/-- No line raises an exception where digits are looked for. -/
theorem isSome_intField_digits (label : String) (line : Text) (default : ℤ) :
    (intField label (.plus (.chars Char.isDigit)) line default).isSome = true := by
  unfold intField
  cases h : fieldMatch label (.plus (.chars Char.isDigit)) line with
  | none => rfl
  | some v =>
    obtain ⟨hne, hdigits⟩ := fieldMatch_chars h
    change (Text.toInt v).isSome = true
    rw [Text.toInt_of_digits hne hdigits]
    rfl

/-- A level that is matched in a line that is cut off begins like the level. -/
theorem exists_of_fieldMatch_level {line value v : Text}
    (hline : line <+: logLine "rxlev: " value) (hr : 'r' ∉ value)
    (h : fieldMatch "rxlev:" (.seq (.chars Text.isDot) (.plus (.chars Char.isDigit))) line =
      some v) :
    ∃ d ds rest, v = d :: ds ∧ ds ≠ [] ∧ (∀ c ∈ ds, c.isDigit = true) ∧
      value ++ ['\n'] = d :: rest := by
  obtain ⟨⟨pre, c, rest, rfl⟩, s, m, hm, rfl⟩ := exists_of_fieldMatch h
  obtain ⟨x, hx, y, hy, rfl⟩ := Regex.mem_run_seq.1 hm
  obtain ⟨d, _, -, -, hd⟩ := Regex.mem_run_chars hx
  obtain ⟨hne, hdigits⟩ := Regex.mem_run_plus_chars hy
  obtain ⟨w, hw⟩ := hline
  have htext : (x.append y).text = d :: y.text := by
    rw [hd]
    rfl
  refine ⟨d, y.text, y.text ++ rest ++ w, htext, hne, hdigits, ?_⟩
  have hall : pre ++ ('r' :: ("xlev:".toList ++ c :: ((d :: y.text) ++ rest)) ++ w) =
      'r' :: ("xlev: ".toList ++ (value ++ ['\n'])) := by
    rw [← htext]
    simpa [logLine] using hw
  cases pre with
  | nil =>
    have htail : c = ' ' ∧ d :: (y.text ++ rest ++ w) = value ++ ['\n'] := by
      simpa using hall
    exact htail.2.symm
  | cons q pre =>
    have htail := (List.cons.inj hall).2
    have hmem : 'r' ∈ "xlev: ".toList ++ (value ++ ['\n']) := by
      rw [← htail]
      simp
    simp [hr] at hmem

theorem isSome_intField_level_cut {line : Text} {z : ℤ}
    (hline : line <+: logLine "rxlev: " (Text.decimalInt z)) (default : ℤ) :
    (intField "rxlev:" (.seq (.chars Text.isDot) (.plus (.chars Char.isDigit))) line
      default).isSome = true := by
  have hr : 'r' ∉ Text.decimalInt z := by
    intro hmem
    rcases Text.eq_minus_or_isDigit hmem with h | h <;> exact absurd h (by decide)
  unfold intField
  cases h : fieldMatch "rxlev:" (.seq (.chars Text.isDot) (.plus (.chars Char.isDigit))) line with
  | none => rfl
  | some v =>
    obtain ⟨d, ds, rest, rfl, hne, hdigits, hvalue⟩ := exists_of_fieldMatch_level hline hr h
    change (Text.toInt (d :: ds)).isSome = true
    cases z with
    | negSucc n =>
      obtain rfl : d = '-' := (List.cons.inj hvalue).1.symm
      rw [Text.toInt_of_minus hne hdigits]
      rfl
    | ofNat n =>
      obtain ⟨e, es, hes⟩ := List.exists_cons_of_ne_nil (Text.decimal_ne_nil n)
      have hd : d = e := by
        change Text.decimal n ++ ['\n'] = d :: rest at hvalue
        rw [hes] at hvalue
        exact (List.cons.inj hvalue).1.symm
      have hfirst : e.isDigit = true := Text.isDigit_of_mem_decimal (hes ▸ List.mem_cons_self)
      rw [Text.toInt_of_digits (by simp)]
      · rfl
      · intro c hc
        rcases List.mem_cons.1 hc with rfl | hc
        · exact hd ▸ hfirst
        · exact hdigits c hc

/-- A neighbour list that is cut off shows the neighbours that have a blank behind them, and
perhaps a part of the next one. -/
theorem exists_neighbours_cut {l : List ℕ} {w : Text} (hw : w <+: neighboursText l ++ ['\n']) :
    ∃ l' v, w = neighboursText l' ++ v ∧ ((∀ c ∈ v, c.isDigit = true) ∨ v = ['\n']) := by
  induction l generalizing w with
  | nil =>
    refine ⟨[], w, rfl, ?_⟩
    rcases List.prefix_concat_iff.1 hw with h | h
    · exact Or.inr h
    · rw [List.prefix_nil.1 h]
      exact Or.inl fun c hc => absurd hc List.not_mem_nil
  | cons a l ih =>
    rw [neighboursText_cons, List.append_assoc, List.cons_append] at hw
    rcases Text.prefix_append hw with h | ⟨w', rfl, hw'⟩
    · exact ⟨[], w, rfl, Or.inl fun c hc => Text.isDigit_of_mem_decimal (h.subset hc)⟩
    · cases w' with
      | nil =>
        refine ⟨[], Text.decimal a, by simp [neighboursText], Or.inl ?_⟩
        exact fun c hc => Text.isDigit_of_mem_decimal hc
      | cons c w' =>
        obtain ⟨rfl, hrest⟩ := List.cons_prefix_cons.1 hw'
        obtain ⟨l', v, rfl, hv⟩ := ih hrest
        exact ⟨a :: l', v, by rw [neighboursText_cons]; simp, hv⟩

theorem neighboursField_of_no_space {line : Text} (h : ∀ c ∈ line, Text.isSpace c = false)
    (default : List ℤ) : neighboursField line default = some default := by
  have hsearch : Regex.search neighboursRegex line = none := by
    rw [Option.eq_none_iff_forall_ne_some]
    intro m hm
    obtain ⟨s, hs, hrun⟩ := Regex.exists_of_search hm
    obtain ⟨x, hx, y, hy, rfl⟩ := Regex.mem_run_seq.1 hrun
    obtain ⟨c, _, rfl, hc, rfl⟩ := Regex.mem_run_chars hx
    rw [h c (hs.subset List.mem_cons_self)] at hc
    exact Bool.false_ne_true hc
  unfold neighboursField
  rw [hsearch]

/-- A neighbour line that is cut off raises an exception if its blank is the last one. -/
theorem neighboursField_cut {l : List ℕ} {line : Text} (hline : line <+: neighboursLine l)
    (default : List ℤ) :
    neighboursField line default = none ↔ ∃ w, line = "Neighbours: ".toList ++ w ∧ ' ' ∉ w := by
  have hlabel : ∀ c ∈ "Neighbours:".toList, Text.isSpace c = false := by
    have hall : ("Neighbours:".toList.all fun c => !Text.isSpace c) = true := by decide
    intro c hc
    simpa using List.all_eq_true.1 hall c hc
  have hshort : line <+: "Neighbours:".toList → (neighboursField line default = none ↔
      ∃ w, line = "Neighbours: ".toList ++ w ∧ ' ' ∉ w) := by
    intro h
    rw [neighboursField_of_no_space fun c hc => hlabel c (h.subset hc)]
    refine iff_of_false (by simp) ?_
    rintro ⟨w, rfl, _⟩
    exact absurd (h.length_le) (by simp)
  have hsplit : neighboursLine l =
      "Neighbours:".toList ++ ' ' :: (neighboursText l ++ ['\n']) := rfl
  rw [hsplit] at hline
  rcases Text.prefix_append hline with h | ⟨y, rfl, hy⟩
  · exact hshort h
  · cases y with
    | nil => exact hshort (by simp)
    | cons c w =>
      obtain ⟨rfl, hw⟩ := List.cons_prefix_cons.1 hy
      obtain ⟨l', v, rfl, hv⟩ := exists_neighbours_cut hw
      have hrun : (Regex.group 1 (.seq (.group 2 (.plus (.chars Char.isDigit)))
          (.chars Text.isSpace))).run v = [] := by
        rcases hv with hv | rfl
        · exact run_neighbour_digits hv
        · rfl
      have hblank : ' ' ∉ v := by
        rcases hv with hv | rfl
        · exact fun hmem => absurd (hv _ hmem) (by decide)
        · decide
      rw [neighboursField_eq hrun]
      by_cases hl : l' = []
      · subst hl
        exact iff_of_true (if_pos rfl) ⟨v, rfl, hblank⟩
      · rw [if_neg hl]
        refine iff_of_false (by simp) ?_
        rintro ⟨w', heq, hw'⟩
        have hrest : neighboursText l' ++ v = w' := by simpa using heq
        apply hw'
        rw [← hrest, neighboursText_eq hl]
        simp

/-! ### What is delivered -/

def CellPrint.block (networks : List GsmNetwork) (p : CellPrint) : Text :=
  logSysinfo networks p.sysinfo p.meas

def CellPrint.text (networks : List GsmNetwork) (p : CellPrint) : Text :=
  p.block networks ++ (p.after.map (·.1)).flatten

/-- A part of a block of which no record is made: the head line is not recognised, or the
neighbour line is cut off before its first neighbour ends. -/
def Unread (part : Text) : Prop :=
  ¬ "[SysInfo".toList <+: part ∨
    ∃ w, (Text.lines part).getD 8 [] = "Neighbours: ".toList ++ w ∧ ' ' ∉ w

/-- What the thread hands over of the output for some cells, which is cut off somewhere. -/
inductive Delivered (networks : List GsmNetwork) : List CellPrint → Text → List Sighting → Prop
  | done : Delivered networks [] [] []
  | within (p : CellPrint) (ps : List CellPrint) (part : Text) (found : List Sighting)
      (hpart : part <+: p.block networks) (hcut : part ≠ p.block networks)
      (hfound : Unread part ↔ found = []) : Delivered networks (p :: ps) part found
  | raised (p : CellPrint) (ps : List CellPrint) (part : Text)
      (hnil : p.sysinfo.printedNeighbours = []) :
      Delivered networks (p :: ps) (p.block networks ++ part) []
  | behind (p : CellPrint) (ps : List CellPrint) (part : Text) (sighting : Sighting)
      (hpart : part <+: (p.after.map (·.1)).flatten) (hcut : part ≠ (p.after.map (·.1)).flatten)
      (hne : p.sysinfo.printedNeighbours ≠ [])
      (htaken : Taken networks p.sysinfo p.meas sighting.station) :
      Delivered networks (p :: ps) (p.block networks ++ part) [sighting]
  | next (p : CellPrint) (ps : List CellPrint) (cut : Text) (sighting : Sighting)
      (found : List Sighting) (hne : p.sysinfo.printedNeighbours ≠ [])
      (htaken : Taken networks p.sysinfo p.meas sighting.station)
      (hrest : Delivered networks ps cut found) :
      Delivered networks (p :: ps) (p.text networks ++ cut) (sighting :: found)

section thread
variable {networks : List GsmNetwork} (hnames : ∀ n ∈ networks, '\n' ∉ n.name)

/-- No line of a block but the first announces a record that the parser could come to. -/
theorem quiet_sysinfoLines (networks : List GsmNetwork) (p : CellPrint) (i : ℕ) :
    Text.contains "SysInfo".toList
      ((sysinfoLines networks p.sysinfo p.meas).getD (i + 16) []) = false := by
  have hend : ∀ j, Text.contains "SysInfo".toList (([] : List Text).getD j []) = false := by
    intro j
    rw [List.getD_nil]
    decide
  have hblank : ∀ j, Text.contains "SysInfo".toList ([logLine "" []].getD j []) = false := by
    intro j
    cases j with
    | zero => decide
    | succ j => exact hend j
  rw [sysinfoLines_eq, frameLines, p.si1, p.si2, p.si3, p.si4]
  cases p.sysinfo.si2ter <;> cases p.sysinfo.si2bis
  · exact hend (i + 1)
  · exact hend i
  · exact hend i
  · exact hblank i

include hnames

theorem lines_block_append (p : CellPrint) (part : Text) :
    Text.lines (p.block networks ++ part) = logLine "[SysInfo]" [] ::
      ((sysinfoLines networks p.sysinfo p.meas).tail ++ Text.lines part) :=
  Text.lines_flatten_append (isLine_sysinfoLines hnames p.sysinfo p.meas) part

/-- What the parser makes of a block that is cut off is decided by its neighbour line. -/
theorem parseStation_cut {s : Gsm48Sysinfo} {meas : RxMeasStat} {part : Text}
    (hpart : part <+: logSysinfo networks s meas) :
    (parseStation fun i => (Text.lines part).getD (i + 1) []) = none ↔
      ∃ w, (Text.lines part).getD 8 [] = "Neighbours: ".toList ++ w ∧ ' ' ∉ w := by
  have hline := Text.getD_lines_cut (isLine_sysinfoLines hnames s meas) hpart
  rw [← neighboursField_cut (hline 8) []]
  obtain ⟨arfcn, harfcn⟩ := Option.isSome_iff_exists.1
    (isSome_intField_digits "ARFCN:" ((Text.lines part).getD 3 []) 0)
  obtain ⟨cell, hcell⟩ := Option.isSome_iff_exists.1
    (isSome_intField_digits "Cell ID:" ((Text.lines part).getD 4 []) 0)
  obtain ⟨lac, hlac⟩ := Option.isSome_iff_exists.1
    (isSome_intField_digits "LAC:" ((Text.lines part).getD 5 []) 0)
  obtain ⟨rxlev, hrxlev⟩ := Option.isSome_iff_exists.1 (isSome_intField_level_cut (hline 7) 0)
  cases hneighbours : neighboursField ((Text.lines part).getD 8 []) [] with
  | none =>
    refine iff_of_true ?_ rfl
    unfold parseStation
    simp only [harfcn, hcell, hlac, hrxlev, hneighbours]
    rfl
  | some neighbours =>
    obtain ⟨sighting, hparse, _⟩ := parseStation_of_fields
      (fun i => (Text.lines part).getD (i + 1) []) harfcn hcell hlac hrxlev hneighbours
    rw [hparse]
    simp

/-- The thread on a block that is cut off. -/
theorem ends_within {p : CellPrint} {part : Text} (hpart : part <+: p.block networks)
    (found : List Sighting) :
    ∃ ss r, (Unread part ↔ ss = []) ∧ ScanThread.Ends ⟨Text.lines part, found, false⟩ r ∧
      r.found = found ++ ss := by
  have hlines := isLine_sysinfoLines hnames p.sysinfo p.meas
  by_cases hhead : "[SysInfo".toList <+: part
  · have hfirst : ∃ l rest, Text.lines part = l :: rest ∧
        Text.contains "SysInfo".toList l = true := by
      have hmark : Text.contains "SysInfo".toList part = true :=
        (Text.contains_iff _ _).2 ((by decide : "SysInfo".toList <:+: "[SysInfo".toList).trans
          hhead.isInfix)
      rcases Text.lines_cut_cons (hlines _ List.mem_cons_self) hpart with
        ⟨_, h⟩ | ⟨t', _, _, h⟩
      · rw [if_neg (by rintro rfl; exact absurd hmark (by decide))] at h
        exact ⟨part, [], h, hmark⟩
      · exact ⟨_, _, h, by decide⟩
    obtain ⟨l, rest, hcons, hmark⟩ := hfirst
    have hparse := parseStation_cut hnames hpart
    rw [hcons] at hparse ⊢
    change (parseStation fun i => rest.getD i []) = none ↔ _ at hparse
    cases hrecord : parseStation fun i => rest.getD i [] with
    | none =>
      refine ⟨[], _, iff_of_true (Or.inr ?_) rfl, ScanThread.ends_raised hmark hrecord, by simp⟩
      rw [hcons]
      exact hparse.1 hrecord
    | some sighting =>
      refine ⟨[sighting], ⟨[], found ++ [sighting], false⟩, iff_of_false ?_ (by simp), ?_, rfl⟩
      · rintro (h | h)
        · exact h hhead
        · rw [hcons] at h
          rw [hparse.2 h] at hrecord
          cases hrecord
      · apply ScanThread.Ends.record hmark hrecord
        rw [← List.append_nil (rest.drop 15)]
        refine ScanThread.Ends.skip ?_ (ScanThread.ends_nil _)
        intro x hx
        have hdrop : x ∈ (Text.lines part).drop 16 := by
          rw [hcons]
          exact hx
        obtain ⟨i, hi, hprefix⟩ := Text.exists_of_mem_drop_lines_cut hlines hpart hdrop
        obtain ⟨j, rfl⟩ : ∃ j, i = j + 16 := ⟨i - 16, by omega⟩
        exact Text.not_contains_of_infix hprefix.isInfix (quiet_sysinfoLines networks p j)
  · refine ⟨[], ⟨[], found, false⟩, iff_of_true (Or.inl hhead) rfl, ?_, by simp⟩
    rw [← List.append_nil (Text.lines part)]
    refine ScanThread.Ends.skip ?_ (ScanThread.ends_nil _)
    have hinit : part ∈ "[SysInfo".toList.inits := by
      have hmark : "[SysInfo".toList <+: p.block networks := ⟨_, rfl⟩
      rcases List.prefix_or_prefix_of_prefix hmark hpart with h | h
      · exact absurd h hhead
      · exact (List.mem_inits _ _).2 h
    have hshort : ∀ t ∈ "[SysInfo".toList.inits, ¬ "[SysInfo".toList <+: t →
        ∀ l ∈ Text.lines t, Text.contains "SysInfo".toList l = false := by
      decide
    exact hshort part hinit hhead

omit hnames in
theorem isLine_quiet (quiet : List QuietLine) : ∀ l ∈ quiet.map (·.1), Text.IsLine l := by
  intro l hl
  obtain ⟨q, _, rfl⟩ := List.mem_map.1 hl
  exact q.2.1

omit hnames in
/-- Quiet lines are quiet where they are cut off. -/
theorem quiet_lines_cut {quiet : List QuietLine} {part : Text}
    (hpart : part <+: (quiet.map (·.1)).flatten) :
    ∀ l ∈ Text.lines part, Text.contains "SysInfo".toList l = false := by
  intro l hl
  obtain ⟨i, _, hprefix⟩ := Text.exists_of_mem_drop_lines_cut (j := 0) (isLine_quiet quiet) hpart hl
  refine Text.not_contains_of_infix hprefix.isInfix ?_
  by_cases hi : i < (quiet.map (·.1)).length
  · rw [List.getD_eq_getElem _ _ hi]
    exact quiet_map quiet _ (List.getElem_mem hi)
  · rw [List.getD_eq_default _ _ (by omega)]
    decide

/-- The thread on a block and a part of the lines behind it. -/
theorem ends_behind {p : CellPrint} (hne : p.sysinfo.printedNeighbours ≠ []) {part : Text}
    (hpart : part <+: (p.after.map (·.1)).flatten) (found : List Sighting) :
    ∃ sighting : Sighting, Taken networks p.sysinfo p.meas sighting.station ∧
      ScanThread.Ends ⟨Text.lines (p.block networks ++ part), found, false⟩
        ⟨[], found ++ [sighting], false⟩ := by
  obtain ⟨sighting, hparse, htaken⟩ := parseStation_block networks p.meas p.si1 p.si2 p.si3 p.si4
    hne (Text.lines part)
  refine ⟨sighting, htaken, ?_⟩
  rw [lines_block_append hnames]
  apply ScanThread.Ends.record (by decide) hparse
  rw [List.drop_append, ← List.append_nil (_ ++ _)]
  refine ScanThread.Ends.skip ?_ (ScanThread.ends_nil _)
  intro x hx
  rcases List.mem_append.1 hx with hx | hx
  · rw [List.drop_tail] at hx
    obtain ⟨i, hi, rfl⟩ := List.mem_iff_getElem.1 hx
    have hquiet := quiet_sysinfoLines networks p i
    rw [List.length_drop] at hi
    rw [List.getD_eq_getElem _ _ (by omega)] at hquiet
    rw [List.getElem_drop]
    simpa [Nat.add_comm] using hquiet
  · exact quiet_lines_cut hpart x (List.mem_of_mem_drop hx)

/-- The thread on a block that has no neighbours, whatever is behind it. -/
theorem ends_raised_block {p : CellPrint} (hnil : p.sysinfo.printedNeighbours = []) (part : Text)
    (found : List Sighting) :
    ∃ r : ScanThread, ScanThread.Ends ⟨Text.lines (p.block networks ++ part), found, false⟩ r ∧
      r.found = found := by
  rw [lines_block_append hnames]
  exact ⟨_, ScanThread.ends_raised (by decide)
    (parseStation_of_nil _ rfl rfl rfl rfl rfl hnil), rfl⟩

theorem ends_cut {prints : List CellPrint} {cut : Text}
    (hcut : cut <+: prints.flatMap (CellPrint.text networks)) (found : List Sighting) :
    ∃ ss r, Delivered networks prints cut ss ∧
      ScanThread.Ends ⟨Text.lines cut, found, false⟩ r ∧ r.found = found ++ ss := by
  induction prints generalizing cut found with
  | nil =>
    rw [List.prefix_nil.1 hcut]
    exact ⟨[], _, Delivered.done, ScanThread.ends_nil found, by simp⟩
  | cons p ps ih =>
    rw [List.flatMap_cons, CellPrint.text, List.append_assoc] at hcut
    by_cases hfull : p.block networks <+: cut
    · obtain ⟨part, rfl⟩ := hfull
      rw [List.prefix_append_right_inj] at hcut
      by_cases hnil : p.sysinfo.printedNeighbours = []
      · obtain ⟨r, hends, hfound⟩ := ends_raised_block hnames hnil part found
        exact ⟨[], r, Delivered.raised p ps part hnil, hends, by rw [hfound, List.append_nil]⟩
      by_cases hall : (p.after.map (·.1)).flatten <+: part
      · obtain ⟨cut, rfl⟩ := hall
        rw [List.prefix_append_right_inj] at hcut
        obtain ⟨sighting, htaken, hblock⟩ := ends_block networks hnil (Text.lines cut) found
        obtain ⟨ss, r, hdelivered, hends, hfound⟩ := ih hcut (found ++ [sighting])
        have hlines : Text.lines (p.block networks ++ ((p.after.map (·.1)).flatten ++ cut)) =
            p.lines networks ++ Text.lines cut := by
          have h := Text.lines_flatten_append (isLine_cellPrint_lines hnames p) cut
          rw [CellPrint.lines, List.flatten_append, List.append_assoc] at h
          exact h
        refine ⟨sighting :: ss, r, ?_, ?_, ?_⟩
        · rw [← List.append_assoc]
          exact Delivered.next p ps cut sighting ss hnil htaken hdelivered
        · rw [hlines]
          exact hblock r hends
        · rw [hfound, List.append_assoc, List.singleton_append]
      · have hpart : part <+: (p.after.map (·.1)).flatten := by
          rcases Text.prefix_append hcut with h | ⟨t, rfl, _⟩
          · exact h
          · exact absurd (List.prefix_append _ _) hall
        obtain ⟨sighting, htaken, hends⟩ := ends_behind hnames hnil hpart found
        refine ⟨[sighting], _, Delivered.behind p ps part sighting hpart ?_ hnil htaken, hends, rfl⟩
        rintro rfl
        exact hall List.prefix_rfl
    · have hpart : cut <+: p.block networks := by
        rcases Text.prefix_append hcut with h | ⟨t, rfl, _⟩
        · exact h
        · exact absurd (List.prefix_append _ _) hfull
      obtain ⟨ss, r, hunread, hends, hfound⟩ := ends_within hnames hpart found
      refine ⟨ss, r, Delivered.within p ps cut ss hpart ?_ hunread, hends, hfound⟩
      rintro rfl
      exact hfull List.prefix_rfl

end thread

/-! ### When all that is delivered is complete -/

/-- Every field of the record is what the block says, a country perhaps only its first word. -/
structure NoDefaults (networks : List GsmNetwork) (p : CellPrint) (b : BaseStationInformation) :
    Prop extends FieldsBack (List.drop 1) networks p b where
  country : b.country ≠ [] ∧ b.country <+: gsmGetMcc networks p.sysinfo.mcc

/-- The country, in addition, begins like a word. -/
structure AllRead (networks : List GsmNetwork) (p : CellPrint) : Prop
    extends FieldsReadable networks p where
  country : ∃ c ∈ (gsmGetMcc networks p.sysinfo.mcc).head?, Text.isWord c = true

theorem Taken.noDefaults_iff {networks : List GsmNetwork} (hnames : ∀ n ∈ networks, '\n' ∉ n.name)
    {p : CellPrint} {b : BaseStationInformation} (h : Taken networks p.sysinfo p.meas b)
    (hframes : p.sysinfo.FrameArrays) : NoDefaults networks p b ↔ AllRead networks p := by
  have hfields := h.fieldsBack_iff hframes hnames
  have hcountry := country_prefix_iff (gsmGetMcc networks p.sysinfo.mcc)
  have hne := (country_ne_nil (logLine "Country: " (gsmGetMcc networks p.sysinfo.mcc))).1
  rw [← h.country] at hcountry hne
  constructor
  · rintro ⟨hback, _, hpre⟩
    exact ⟨hfields.1 hback, hcountry.1 hpre⟩
  · rintro ⟨hread, hword⟩
    exact ⟨hfields.2 hread, hne, hcountry.2 hword⟩

/-- Each record that is handed over comes from a block that is wholly there, and has no field
with a default. -/
def OnlyComplete (networks : List GsmNetwork) (before : List QuietLine) (prints : List CellPrint)
    (cut : Text) (found : List Sighting) : Prop :=
  ∀ i sighting, found[i]? = some sighting → ∃ p, prints[i]? = some p ∧
    scanOutput networks before (prints.take i) ++ p.block networks <+: cut ∧
    NoDefaults networks p sighting.station

/-- Up to the first block without neighbours, no block is cut off where a record would be made of
its part, and every block that is there can be read. -/
structure CutApart (networks : List GsmNetwork) (before : List QuietLine)
    (prints : List CellPrint) (cut : Text) : Prop where
  unread : ∀ i p part, prints[i]? = some p →
    (∀ q ∈ prints.take i, q.sysinfo.printedNeighbours ≠ []) →
    part <+: p.block networks → part ≠ p.block networks →
    cut = scanOutput networks before (prints.take i) ++ part → Unread part
  allRead : ∀ i p, prints[i]? = some p →
    (∀ q ∈ prints.take (i + 1), q.sysinfo.printedNeighbours ≠ []) →
    scanOutput networks before (prints.take i) ++ p.block networks <+: cut → AllRead networks p

section cons
variable {networks : List GsmNetwork} {p : CellPrint} {ps : List CellPrint}

theorem scanOutput_take_succ (i : ℕ) : scanOutput networks [] ((p :: ps).take (i + 1)) =
    p.text networks ++ scanOutput networks [] (ps.take i) := rfl

theorem not_prefix_of_part {part t : Text} (hpart : part <+: p.block networks)
    (hcut : part ≠ p.block networks) : ¬ p.block networks ++ t <+: part := by
  intro h
  have hblock : p.block networks <+: part := (List.prefix_append _ _).trans h
  exact hcut (hpart.eq_of_length_le hblock.length_le)

theorem onlyComplete_cons {cut : Text} {sighting : Sighting} {found : List Sighting} :
    OnlyComplete networks [] (p :: ps) (p.text networks ++ cut) (sighting :: found) ↔
      NoDefaults networks p sighting.station ∧ OnlyComplete networks [] ps cut found := by
  constructor
  · intro h
    constructor
    · obtain ⟨q, hq, _, hdefaults⟩ := h 0 sighting rfl
      obtain rfl : p = q := Option.some.inj hq
      exact hdefaults
    · intro i s hs
      obtain ⟨q, hq, hwhole, hdefaults⟩ := h (i + 1) s hs
      rw [scanOutput_take_succ, List.append_assoc, List.prefix_append_right_inj] at hwhole
      exact ⟨q, hq, hwhole, hdefaults⟩
  · rintro ⟨hdefaults, hrest⟩ i s hs
    cases i with
    | zero =>
      obtain rfl : sighting = s := Option.some.inj hs
      refine ⟨p, rfl, ?_, hdefaults⟩
      rw [CellPrint.text, List.append_assoc]
      exact List.prefix_append _ _
    | succ i =>
      obtain ⟨q, hq, hwhole, hs⟩ := hrest i s hs
      refine ⟨q, hq, ?_, hs⟩
      rw [scanOutput_take_succ, List.append_assoc, List.prefix_append_right_inj]
      exact hwhole

theorem cutApart_cons (hne : p.sysinfo.printedNeighbours ≠ []) {cut : Text} :
    CutApart networks [] (p :: ps) (p.text networks ++ cut) ↔
      AllRead networks p ∧ CutApart networks [] ps cut := by
  have hall : ∀ i, (∀ q ∈ (p :: ps).take (i + 1), q.sysinfo.printedNeighbours ≠ []) ↔
      ∀ q ∈ ps.take i, q.sysinfo.printedNeighbours ≠ [] := by
    intro i
    rw [List.take_succ_cons]
    simp [hne]
  have hblock : p.block networks <+: p.text networks ++ cut := by
    rw [CellPrint.text, List.append_assoc]
    exact List.prefix_append _ _
  constructor
  · rintro ⟨hunread, hread⟩
    refine ⟨hread 0 p rfl (by simpa using hne) hblock, ?_, ?_⟩
    · intro i q part hq hnbrs hpart hcut heq
      refine hunread (i + 1) q part hq ((hall i).2 hnbrs) hpart hcut ?_
      rw [heq, scanOutput_take_succ, List.append_assoc]
    · intro i q hq hnbrs hwhole
      refine hread (i + 1) q hq ((hall (i + 1)).2 hnbrs) ?_
      rw [scanOutput_take_succ, List.append_assoc, List.prefix_append_right_inj]
      exact hwhole
  · rintro ⟨hp, hunread, hread⟩
    constructor
    · intro i q part hq hnbrs hpart hcut heq
      cases i with
      | zero =>
        obtain rfl : p = q := Option.some.inj hq
        refine absurd ?_ (not_prefix_of_part (t := []) hpart hcut)
        rw [List.append_nil]
        have heq : p.text networks ++ cut = part := heq
        rw [← heq]
        exact hblock
      | succ i =>
        refine hunread i q part hq ((hall i).1 hnbrs) hpart hcut ?_
        rw [scanOutput_take_succ, List.append_assoc] at heq
        exact List.append_cancel_left heq
    · intro i q hq hnbrs hwhole
      cases i with
      | zero =>
        obtain rfl : p = q := Option.some.inj hq
        exact hp
      | succ i =>
        rw [scanOutput_take_succ, List.append_assoc, List.prefix_append_right_inj] at hwhole
        exact hread i q hq ((hall (i + 1)).1 hnbrs) hwhole

/-- Within its first block, an output is cut off apart from it if no record is made of the
part. -/
theorem cutApart_part {part : Text} (hpart : part <+: p.block networks)
    (hcut : part ≠ p.block networks) :
    CutApart networks [] (p :: ps) part ↔ Unread part := by
  have hnot : ∀ i t, ¬ scanOutput networks [] ((p :: ps).take (i + 1)) ++ t <+: part := by
    intro i t h
    rw [scanOutput_take_succ, CellPrint.text, List.append_assoc, List.append_assoc] at h
    exact not_prefix_of_part hpart hcut h
  constructor
  · intro hapart
    exact hapart.unread 0 p part rfl (by simp) hpart hcut rfl
  · intro hunread
    constructor
    · intro i q part' hq _ hpart' _ heq
      cases i with
      | zero =>
        have heq : part = part' := heq
        exact heq ▸ hunread
      | succ i => exact absurd (heq ▸ List.prefix_rfl) (hnot i part')
    · intro i q hq _ hwhole
      cases i with
      | zero =>
        obtain rfl : p = q := Option.some.inj hq
        exact absurd (by simpa [scanOutput] using hwhole)
          (not_prefix_of_part (t := []) hpart hcut)
      | succ i => exact absurd hwhole (hnot i _)

theorem onlyComplete_part {part : Text} (hpart : part <+: p.block networks)
    (hcut : part ≠ p.block networks) {found : List Sighting} :
    OnlyComplete networks [] (p :: ps) part found ↔ found = [] := by
  constructor
  · intro hall
    by_contra hne
    obtain ⟨s, ss, rfl⟩ := List.exists_cons_of_ne_nil hne
    obtain ⟨q, hq, hwhole, _⟩ := hall 0 s rfl
    obtain rfl : p = q := Option.some.inj hq
    exact not_prefix_of_part (t := []) hpart hcut (by simpa [scanOutput] using hwhole)
  · rintro rfl i s hs
    simp at hs

/-- Behind a whole block without neighbours nothing is asked of an output. -/
theorem cutApart_raised (hnil : p.sysinfo.printedNeighbours = []) (part : Text) :
    CutApart networks [] (p :: ps) (p.block networks ++ part) := by
  refine ⟨?_, ?_⟩
  · intro i q part' hq hnbrs hpart' hcut' heq
    cases i with
    | zero =>
      obtain rfl : p = q := Option.some.inj hq
      have heq : p.block networks ++ part = part' := heq
      exact absurd (heq ▸ List.prefix_rfl) (not_prefix_of_part (t := part) hpart' hcut')
    | succ i => exact absurd hnil (hnbrs p (by simp))
  · intro i q hq hnbrs _
    exact absurd hnil (hnbrs p (by simp))

/-- Between a block and the next one, the block has to be readable. -/
theorem cutApart_behind {part : Text} (hpart : part <+: (p.after.map (·.1)).flatten)
    (hcut : part ≠ (p.after.map (·.1)).flatten) (hne : p.sysinfo.printedNeighbours ≠ []) :
    CutApart networks [] (p :: ps) (p.block networks ++ part) ↔ AllRead networks p := by
  have hnot : ∀ i t, ¬ scanOutput networks [] ((p :: ps).take (i + 1)) ++ t <+:
      p.block networks ++ part := by
    intro i t h
    rw [scanOutput_take_succ, CellPrint.text, List.append_assoc, List.append_assoc,
      List.prefix_append_right_inj] at h
    have hafter := (List.prefix_append _ _).trans h
    exact hcut (hpart.eq_of_length_le hafter.length_le)
  constructor
  · intro hapart
    exact hapart.allRead 0 p rfl (by simpa using hne) (List.prefix_append _ _)
  · intro hread
    refine ⟨?_, ?_⟩
    · intro i q part' hq _ hpart' hcut' heq
      cases i with
      | zero =>
        obtain rfl : p = q := Option.some.inj hq
        have heq : p.block networks ++ part = part' := heq
        exact absurd (heq ▸ List.prefix_rfl) (not_prefix_of_part (t := part) hpart' hcut')
      | succ i => exact absurd (heq ▸ List.prefix_rfl) (hnot i part')
    · intro i q hq _ hwhole
      cases i with
      | zero =>
        obtain rfl : p = q := Option.some.inj hq
        exact hread
      | succ i => exact absurd hwhole (hnot i _)

theorem onlyComplete_behind (part : Text) (sighting : Sighting) :
    OnlyComplete networks [] (p :: ps) (p.block networks ++ part) [sighting] ↔
      NoDefaults networks p sighting.station := by
  constructor
  · intro honly
    obtain ⟨q, hq, _, hread⟩ := honly 0 sighting rfl
    obtain rfl : p = q := Option.some.inj hq
    exact hread
  · intro hread i s hs
    cases i with
    | zero =>
      obtain rfl : sighting = s := Option.some.inj hs
      exact ⟨p, rfl, List.prefix_append _ _, hread⟩
    | succ i => simp at hs

end cons

theorem Delivered.onlyComplete_iff {networks : List GsmNetwork}
    (hnames : ∀ n ∈ networks, '\n' ∉ n.name) {prints : List CellPrint} {cut : Text}
    {found : List Sighting} (h : Delivered networks prints cut found)
    (hframes : ∀ p ∈ prints, p.sysinfo.FrameArrays) :
    OnlyComplete networks [] prints cut found ↔ CutApart networks [] prints cut := by
  induction h with
  | done =>
    refine iff_of_true ?_ ⟨?_, ?_⟩
    · exact fun i s hs => by simp at hs
    · exact fun i p part hp => by simp at hp
    · exact fun i p hp => by simp at hp
  | within p ps part found hpart hcut hfound =>
    rw [onlyComplete_part hpart hcut, cutApart_part hpart hcut, hfound]
  | raised p ps part hnil =>
    exact iff_of_true (fun i s hs => by simp at hs) (cutApart_raised hnil part)
  | behind p ps part sighting hpart hcut hne htaken =>
    rw [onlyComplete_behind, cutApart_behind hpart hcut hne,
      htaken.noDefaults_iff hnames (hframes p List.mem_cons_self)]
  | next p ps cut sighting found hne htaken hrest ih =>
    rw [onlyComplete_cons, cutApart_cons hne,
      htaken.noDefaults_iff hnames (hframes p List.mem_cons_self),
      ih fun q hq => hframes q (List.mem_cons_of_mem _ hq)]

/-! ### The whole output -/

section before
variable {networks : List GsmNetwork} {before : List QuietLine} {prints : List CellPrint}

theorem scanOutput_eq (networks : List GsmNetwork) (before : List QuietLine)
    (prints : List CellPrint) : scanOutput networks before prints =
      (before.map (·.1)).flatten ++ scanOutput networks [] prints := rfl

theorem onlyComplete_before {cut : Text} {found : List Sighting} :
    OnlyComplete networks before prints ((before.map (·.1)).flatten ++ cut) found ↔
      OnlyComplete networks [] prints cut found := by
  unfold OnlyComplete
  simp only [scanOutput_eq networks before, List.append_assoc, List.prefix_append_right_inj]

theorem cutApart_before {cut : Text} :
    CutApart networks before prints ((before.map (·.1)).flatten ++ cut) ↔
      CutApart networks [] prints cut := by
  constructor
  · rintro ⟨hunread, hread⟩
    simp only [scanOutput_eq networks before, List.append_assoc, List.prefix_append_right_inj,
      List.append_cancel_left_eq] at hunread hread
    exact ⟨hunread, hread⟩
  · rintro ⟨hunread, hread⟩
    constructor
    · simpa only [scanOutput_eq networks before, List.append_assoc,
        List.append_cancel_left_eq] using hunread
    · simpa only [scanOutput_eq networks before, List.append_assoc,
        List.prefix_append_right_inj] using hread

end before

/-- Whatever part of the output is there, only complete records are handed over exactly if the
output is not cut off within a block of which a record is made, and every block that is there
can be read. -/
theorem cut_onlyComplete_iff {networks : List GsmNetwork} (hnames : ∀ n ∈ networks, '\n' ∉ n.name)
    (before : List QuietLine) (prints : List CellPrint)
    (hframes : ∀ p ∈ prints, p.sysinfo.FrameArrays) {cut : Text}
    (hcut : cut <+: scanOutput networks before prints) {n : ℕ}
    (hn : (Text.lines cut).length ≤ n) :
    OnlyComplete networks before prints cut (ScanThread.run n ⟨Text.lines cut, [], false⟩).found ↔
      CutApart networks before prints cut := by
  by_cases hall : (before.map (·.1)).flatten <+: cut
  · obtain ⟨cut, rfl⟩ := hall
    rw [scanOutput_eq, List.prefix_append_right_inj] at hcut
    obtain ⟨ss, r, hdelivered, hends, hfound⟩ := ends_cut hnames hcut []
    rw [Text.lines_flatten_append (isLine_quiet before)] at hn ⊢
    rw [(ScanThread.Ends.skip (quiet_map before) hends).run_eq hn, hfound, List.nil_append,
      onlyComplete_before, cutApart_before]
    exact hdelivered.onlyComplete_iff hnames hframes
  · have hpart : cut <+: (before.map (·.1)).flatten := by
      rcases Text.prefix_append hcut with h | ⟨t, rfl, _⟩
      · exact h
      · exact absurd (List.prefix_append _ _) hall
    have hends := ScanThread.Ends.skip (quiet_lines_cut hpart) (ScanThread.ends_nil [])
    rw [List.append_nil] at hends
    rw [hends.run_eq hn]
    refine iff_of_true (fun i s hs => by simp at hs) ⟨?_, ?_⟩
    · intro i p part _ _ _ _ heq
      refine absurd ?_ hall
      rw [heq, scanOutput_eq, List.append_assoc]
      exact List.prefix_append _ _
    · intro i p _ _ hwhole
      rw [scanOutput_eq, List.append_assoc] at hwhole
      exact absurd ((List.prefix_append _ _).trans hwhole) hall

/-- The head line of a block, and nothing behind it. -/
theorem not_onlyComplete_headLine : ¬ OnlyComplete [] [] [cellPrint [30]] "[SysInfo]\n".toList
    (ScanThread.run 1 ⟨Text.lines "[SysInfo]\n".toList, [], false⟩).found := by
  intro h
  obtain ⟨sighting, hfound⟩ : ∃ sighting,
      (ScanThread.run 1 ⟨Text.lines "[SysInfo]\n".toList, [], false⟩).found[0]? = some sighting :=
    Option.isSome_iff_exists.1 (by decide +kernel)
  obtain ⟨p, hp, hwhole, _⟩ := h 0 sighting hfound
  obtain rfl : cellPrint [30] = p := Option.some.inj hp
  exact absurd hwhole (by decide +kernel)

/-- All of a cell's output, and the head line of the next cell but for its last letters. -/
def cutHeadLine : Text := (cellPrint [30]).text [] ++ "[SysInf".toList

theorem cutApart_cutHeadLine :
    CutApart [] [] [cellPrint [30], cellPrint [20, 40]] cutHeadLine := by
  have hnbrs : (cellPrint [30]).sysinfo.printedNeighbours ≠ [] := by decide +kernel
  have hread : AllRead [] (cellPrint [30]) :=
    ⟨⟨List.cons_ne_nil _ _, by decide +kernel, nofun⟩, '0', rfl, rfl⟩
  have hpart : "[SysInf".toList <+: (cellPrint [20, 40]).block [] := ⟨_, rfl⟩
  have hcut : "[SysInf".toList ≠ (cellPrint [20, 40]).block [] := by
    intro h
    have hletter : ((cellPrint [20, 40]).block [])[7]? = some 'o' := rfl
    rw [← h] at hletter
    exact absurd hletter (by decide)
  have hunread : Unread "[SysInf".toList := Or.inl (by decide)
  exact (cutApart_cons hnbrs).2 ⟨hread, (cutApart_part hpart hcut).2 hunread⟩

/-- Only the first cell is handed over, and that with all its fields; behind a whole head line a
record is made. -/
theorem cut_onlyComplete_iff_headLine :
    OnlyComplete [] [] [cellPrint [30], cellPrint [20, 40]] cutHeadLine
        (ScanThread.run 40 ⟨Text.lines cutHeadLine, [], false⟩).found ∧
      (ScanThread.run 40 ⟨Text.lines cutHeadLine, [], false⟩).found.map Sighting.place =
        [(20, 100, 5)] ∧
      ¬ CutApart [] [] [cellPrint [30]] "[SysInfo]\n".toList := by
  refine ⟨?_, by decide +kernel, ?_⟩
  · refine (cut_onlyComplete_iff (by decide) [] [cellPrint [30], cellPrint [20, 40]]
      (by simp [frameArrays_cellPrint]) ?_ (by decide +kernel)).2 cutApart_cutHeadLine
    have hhead : "[SysInf".toList <+: (cellPrint [20, 40]).text [] ++ [] := ⟨_, rfl⟩
    exact (List.prefix_append_right_inj ((cellPrint [30]).text [])).2 hhead
  · intro h
    refine not_onlyComplete_headLine ((cut_onlyComplete_iff (by simp) [] [cellPrint [30]]
      (by simp [frameArrays_cellPrint]) ?_ ?_).2 h)
    · exact ⟨_, rfl⟩
    · decide

/-- The output ends behind a head line, and a record of defaults is handed over. -/
theorem cut_delivers_defaults : ¬ ∀ (networks : List GsmNetwork) (before : List QuietLine)
    (prints : List CellPrint) (cut : Text) (n : ℕ), (∀ n ∈ networks, '\n' ∉ n.name) →
    (∀ p ∈ prints, p.sysinfo.FrameArrays) → cut <+: scanOutput networks before prints →
    (Text.lines cut).length ≤ n → OnlyComplete networks before prints cut
      (ScanThread.run n ⟨Text.lines cut, [], false⟩).found := by
  intro h
  refine not_onlyComplete_headLine (h [] [] [cellPrint [30]] "[SysInfo]\n".toList 1 (by simp)
    (by simp [frameArrays_cellPrint]) ?_ ?_)
  · exact ⟨_, rfl⟩
  · decide

end ImsiCatcher

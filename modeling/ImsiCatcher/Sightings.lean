import ImsiCatcher.ScanThread
import ImsiCatcher.SysinfoBlock

/-!
# From the printer to the parser

What the parser makes of the lines that `log_sysinfo` prints. The block of a cell has between
sixteen and eighteen lines, and the parser takes sixteen: where both optional frames are
missing it takes a line behind the block.
-/

namespace ImsiCatcher

/-! ### The lines of a block -/

theorem isLine_logLine {label : String} {value : Text} (hlabel : '\n' ∉ label.toList)
    (hvalue : '\n' ∉ value) : Text.IsLine (logLine label value) :=
  ⟨label.toList ++ value, fun h => (List.mem_append.1 h).elim hlabel hvalue, rfl⟩

theorem isLine_logFrame {tag : String} (htag : '\n' ∉ tag.toList) (data : Octets) :
    Text.IsLine (logFrame tag data) := by
  apply isLine_logLine htag
  intro h
  obtain ⟨o, _, ho⟩ := List.mem_flatMap.1 h
  rcases List.mem_cons.1 ho with h | h
  · exact absurd h (by decide)
  · exact Text.newline_notMem_hexPadded _ _ h

theorem isLine_neighboursLine (l : List ℕ) : Text.IsLine (neighboursLine l) := by
  apply isLine_logLine (by decide)
  intro h
  obtain ⟨a, _, ha⟩ := List.mem_flatMap.1 h
  rcases List.mem_append.1 ha with h | h
  · exact Text.newline_notMem_decimal _ h
  · exact absurd (List.mem_singleton.1 h) (by decide)

def parameterLines (networks : List GsmNetwork) (s : Gsm48Sysinfo) (meas : RxMeasStat) :
    List Text :=
  [logLine "Country: " (gsmGetMcc networks s.mcc),
    logLine "Provider: " (gsmGetMnc networks s.mcc s.mnc),
    logLine "ARFCN: " (Text.decimal s.arfcn),
    logLine "Cell ID: " (Text.decimal s.cellId),
    logLine "LAC: " (Text.decimal s.lac),
    logLine "BSIC: " (Text.decimal (s.bsic >>> 3) ++ [','] ++ Text.decimal (s.bsic &&& 7)),
    logLine "rxlev: " (Text.decimalInt meas.meanRxlev),
    neighboursLine s.printedNeighbours]

section networks
variable {networks : List GsmNetwork} (hnames : ∀ n ∈ networks, '\n' ∉ n.name)
include hnames

theorem newline_notMem_gsmGetMcc (mcc : ℕ) : '\n' ∉ gsmGetMcc networks mcc := by
  unfold gsmGetMcc
  split
  · rename_i n hn
    exact hnames n (List.mem_of_find?_eq_some hn)
  · exact fun h => Text.newline_notMem_hexPadded _ _ (List.mem_of_mem_take h)

theorem newline_notMem_gsmGetMnc (mcc mnc : ℕ) : '\n' ∉ gsmGetMnc networks mcc mnc := by
  unfold gsmGetMnc
  split
  · rename_i n hn
    exact hnames n (List.mem_of_find?_eq_some hn)
  · unfold gsmPrintMnc
    split
    · intro h
      rcases List.mem_append.1 (List.mem_of_mem_take h) with h | h
      · exact absurd h (by decide)
      · exact Text.newline_notMem_hexPadded _ _ h
    · split <;> exact fun h => Text.newline_notMem_hexPadded _ _ (List.mem_of_mem_take h)

theorem isLine_parameterLines (s : Gsm48Sysinfo) (meas : RxMeasStat) :
    ∀ l ∈ parameterLines networks s meas, Text.IsLine l := by
  have hbsic : '\n' ∉ Text.decimal (s.bsic >>> 3) ++ [','] ++ Text.decimal (s.bsic &&& 7) := by
    simp only [List.mem_append, List.mem_singleton, not_or]
    exact ⟨⟨Text.newline_notMem_decimal _, by decide⟩, Text.newline_notMem_decimal _⟩
  intro l hl
  simp only [parameterLines, List.mem_cons, List.not_mem_nil, or_false] at hl
  rcases hl with rfl | rfl | rfl | rfl | rfl | rfl | rfl | rfl
  · exact isLine_logLine (by decide) (newline_notMem_gsmGetMcc hnames _)
  · exact isLine_logLine (by decide) (newline_notMem_gsmGetMnc hnames _ _)
  · exact isLine_logLine (by decide) (Text.newline_notMem_decimal _)
  · exact isLine_logLine (by decide) (Text.newline_notMem_decimal _)
  · exact isLine_logLine (by decide) (Text.newline_notMem_decimal _)
  · exact isLine_logLine (by decide) hbsic
  · exact isLine_logLine (by decide) (Text.newline_notMem_decimalInt _)
  · exact isLine_neighboursLine _

end networks

theorem isLine_frameLines (s : Gsm48Sysinfo) : ∀ l ∈ frameLines s, Text.IsLine l := by
  have hone : ∀ (b : Bool) (tag : String) (data : Octets), '\n' ∉ tag.toList →
      ∀ l ∈ (if b then [logFrame tag data] else []), Text.IsLine l := by
    intro b tag data htag l hl
    cases b with
    | false => exact absurd hl List.not_mem_nil
    | true =>
      rw [List.mem_singleton.1 hl]
      exact isLine_logFrame htag data
  intro l hl
  simp only [frameLines, List.mem_append] at hl
  rcases hl with ((((hl | hl) | hl) | hl) | hl) | hl
  all_goals exact hone _ _ _ (by decide) l hl

theorem sysinfoLines_eq (networks : List GsmNetwork) (s : Gsm48Sysinfo) (meas : RxMeasStat) :
    sysinfoLines networks s meas = logLine "[SysInfo]" [] :: (parameterLines networks s meas ++
      frameLines s ++ [logLine "[EndInfo]" [], logLine "" []]) := rfl

theorem isLine_sysinfoLines {networks : List GsmNetwork} (hnames : ∀ n ∈ networks, '\n' ∉ n.name)
    (s : Gsm48Sysinfo) (meas : RxMeasStat) :
    ∀ l ∈ sysinfoLines networks s meas, Text.IsLine l := by
  intro l hl
  rw [sysinfoLines_eq] at hl
  simp only [List.mem_append, List.mem_cons, List.not_mem_nil, or_false] at hl
  rcases hl with rfl | (hl | hl) | rfl | rfl
  · exact isLine_logLine (by decide) (by decide)
  · exact isLine_parameterLines hnames _ _ l hl
  · exact isLine_frameLines _ l hl
  · exact isLine_logLine (by decide) (by decide)
  · exact isLine_logLine (by decide) (by decide)

/-- A complete block has four frames and the optional ones. -/
theorem length_frameLines {s : Gsm48Sysinfo} (h1 : s.si1 = true) (h2 : s.si2 = true)
    (h3 : s.si3 = true) (h4 : s.si4 = true) :
    (frameLines s).length = 4 + s.si2ter.toNat + s.si2bis.toNat := by
  unfold frameLines
  rw [h1, h2, h3, h4]
  cases s.si2ter <;> cases s.si2bis <;> rfl

/-! ### The fields of a line -/

theorem fieldMatch_printed {label : String} {value : Regex} {v : Text} {m : Regex.Found}
    (hvalue : Regex.First value (v ++ ['\n']) m) :
    fieldMatch label value (label.toList ++ ' ' :: v ++ ['\n']) = some m.text := by
  have hblank : Regex.First (.chars Text.isSpace) (' ' :: (v ++ ['\n']))
      ⟨[' '], [], v ++ ['\n']⟩ := Regex.first_chars rfl _
  have hfirst := (Regex.first_lit label.toList (' ' :: (v ++ ['\n']))).seq
    (hblank.seq (hvalue.group 1))
  unfold fieldMatch fieldRegex
  rw [List.append_assoc, List.cons_append, hfirst.search]
  simp [Regex.Found.append, Regex.Found.groupText]

theorem logLine_eq {label field : String} (h : label.toList = field.toList ++ [' ']) (v : Text) :
    logLine label v = field.toList ++ ' ' :: v ++ ['\n'] := by
  unfold logLine
  rw [h, List.append_assoc field.toList, List.singleton_append]

theorem first_digits (n : ℕ) : Regex.First (.plus (.chars Char.isDigit))
    (Text.decimal n ++ ['\n']) ⟨Text.decimal n, [], ['\n']⟩ :=
  Regex.first_plus_chars (Text.decimal_ne_nil n) (fun _ hc => Text.isDigit_of_mem_decimal hc)
    fun c hc => by
      obtain rfl : c = '\n' := by simpa using hc.symm
      rfl

theorem intField_decimal {label field : String} (h : label.toList = field.toList ++ [' '])
    (n : ℕ) (default : ℤ) :
    intField field (.plus (.chars Char.isDigit)) (logLine label (Text.decimal n)) default =
      some (n : ℤ) := by
  unfold intField
  rw [logLine_eq h, fieldMatch_printed (first_digits n)]
  exact Text.toInt_decimal n

/-! ### The reception level

The expression takes one character and then digits: a level of one digit and no sign is not
matched, and the record keeps its default. -/

theorem first_level {c : Char} (hc : Text.isDot c = true) {ds : Text} (hne : ds ≠ [])
    (hds : ∀ d ∈ ds, d.isDigit = true) :
    Regex.First (.seq (.chars Text.isDot) (.plus (.chars Char.isDigit))) (c :: ds ++ ['\n'])
      ⟨c :: ds, [], ['\n']⟩ := by
  have hdigits : Regex.First (.plus (.chars Char.isDigit)) (ds ++ ['\n']) ⟨ds, [], ['\n']⟩ := by
    apply Regex.first_plus_chars hne hds
    intro d hd
    obtain rfl : d = '\n' := by simpa using hd.symm
    rfl
  exact (Regex.first_chars hc (ds ++ ['\n'])).seq hdigits

theorem fieldMatch_level_single {d : Char} (hd : d.isDigit = true) :
    fieldMatch "rxlev:" (.seq (.chars Text.isDot) (.plus (.chars Char.isDigit)))
      (logLine "rxlev: " [d]) = none := by
  have hr : 'r' ∉ "xlev: ".toList ++ [d] ++ ['\n'] := by
    intro h
    rcases List.mem_append.1 h with h | h
    · rcases List.mem_append.1 h with h | h
      · exact absurd h (by decide)
      · rw [← List.mem_singleton.1 h] at hd
        exact absurd hd (by decide)
    · exact absurd h (by decide)
  have hrun : (fieldRegex "rxlev:" (.seq (.chars Text.isDot) (.plus (.chars Char.isDigit)))).run
      (logLine "rxlev: " [d]) = [] := by
    simp [fieldRegex, logLine, Regex.run, Regex.plus, Text.isSpace, Text.isDot]
  have hsearch : Regex.search
      (fieldRegex "rxlev:" (.seq (.chars Text.isDot) (.plus (.chars Char.isDigit))))
      (logLine "rxlev: " [d]) = none := by
    change (Regex.run _ (logLine "rxlev: " [d])).head?.or (Regex.search _ _) = none
    rw [hrun]
    exact Regex.search_eq_none_of_notMem _ hr
  unfold fieldMatch
  rw [hsearch]
  rfl

theorem intField_level_long {z : ℤ} {c : Char} {ds : Text} (hc : Text.isDot c = true)
    (hne : ds ≠ []) (hds : ∀ d ∈ ds, d.isDigit = true) (hz : Text.decimalInt z = c :: ds)
    (default : ℤ) :
    intField "rxlev:" (.seq (.chars Text.isDot) (.plus (.chars Char.isDigit)))
      (logLine "rxlev: " (Text.decimalInt z)) default = some z := by
  have hvalue := Text.toInt_decimalInt z
  rw [hz] at hvalue
  have hlabel : "rxlev: ".toList = "rxlev:".toList ++ [' '] := by decide
  unfold intField
  rw [hz, logLine_eq hlabel, fieldMatch_printed (first_level hc hne hds)]
  exact hvalue

/-- No reception level raises an exception. -/
theorem intField_level (z default : ℤ) :
    intField "rxlev:" (.seq (.chars Text.isDot) (.plus (.chars Char.isDigit)))
      (logLine "rxlev: " (Text.decimalInt z)) default =
        some (if 0 ≤ z ∧ z < 10 then default else z) := by
  cases z with
  | negSucc n =>
    rw [if_neg (by omega)]
    exact intField_level_long (by decide) (Text.decimal_ne_nil (n + 1))
      (fun d hd => Text.isDigit_of_mem_decimal hd) rfl default
  | ofNat n =>
    have hdigit : ∀ d ∈ Text.decimal n, d.isDigit = true :=
      fun d hd => Text.isDigit_of_mem_decimal hd
    obtain ⟨d, ds, hd⟩ : ∃ d ds, Text.decimal n = d :: ds :=
      List.exists_cons_of_ne_nil (Text.decimal_ne_nil n)
    have hlong : ds = [] ↔ n < 10 := Text.tail_decimal hd
    rw [hd] at hdigit
    have hfirst := hdigit d List.mem_cons_self
    have hvalue : Text.decimalInt (.ofNat n) = d :: ds := hd
    have hcast : Int.ofNat n = (n : ℤ) := rfl
    by_cases hds : ds = []
    · have hn := hlong.1 hds
      rw [hds] at hvalue
      unfold intField
      rw [hvalue, fieldMatch_level_single hfirst, if_pos ⟨Int.natCast_nonneg n, by omega⟩]
    · have hn := mt hlong.2 hds
      have hne : d ≠ '\n' := by
        rintro rfl
        exact absurd hfirst (by decide)
      rw [if_neg (by omega)]
      exact intField_level_long (decide_eq_true hne) hds
        (fun e he => hdigit e (List.mem_cons_of_mem _ he)) hvalue default

/-! ### The neighbour list -/

def neighboursText (l : List ℕ) : Text := l.flatMap fun a => Text.decimal a ++ [' ']

theorem neighboursText_cons (a : ℕ) (l : List ℕ) :
    neighboursText (a :: l) = Text.decimal a ++ ' ' :: neighboursText l := by
  unfold neighboursText
  rw [List.flatMap_cons, List.append_assoc, List.singleton_append]

theorem first_neighbour (a : ℕ) (s : Text) :
    ∃ m, m.text = Text.decimal a ++ [' '] ∧ m.rest = s ∧
      Regex.First (.group 1 (.seq (.group 2 (.plus (.chars Char.isDigit)))
        (.chars Text.isSpace))) (Text.decimal a ++ ' ' :: s) m := by
  have hdigits : Regex.First (.plus (.chars Char.isDigit)) (Text.decimal a ++ ' ' :: s)
      ⟨Text.decimal a, [], ' ' :: s⟩ := by
    apply Regex.first_plus_chars (Text.decimal_ne_nil a)
      fun _ hc => Text.isDigit_of_mem_decimal hc
    intro c hc
    obtain rfl : c = ' ' := by simpa using hc.symm
    rfl
  have hblank : Regex.First (.chars Text.isSpace) (' ' :: s) ⟨[' '], [], s⟩ :=
    Regex.first_chars rfl s
  exact ⟨_, rfl, rfl, ((hdigits.group 2).seq hblank).group 1⟩

/-- Digits with nothing behind them are not taken for a neighbour. -/
theorem run_neighbour_digits {v : Text} (hv : ∀ c ∈ v, c.isDigit = true) :
    (Regex.group 1 (.seq (.group 2 (.plus (.chars Char.isDigit))) (.chars Text.isSpace))).run v =
      [] := by
  apply List.eq_nil_iff_forall_not_mem.2
  intro m hm
  rw [Regex.run] at hm
  obtain ⟨x, hx, rfl⟩ := List.mem_map.1 hm
  obtain ⟨y, hy, z, hz, rfl⟩ := Regex.mem_run_seq.1 hx
  obtain ⟨c, rest, hrest, hc, rfl⟩ := Regex.mem_run_chars hz
  have hmem : c ∈ v := by
    rw [← Regex.append_rest_of_mem_run hy, hrest]
    simp
  rw [Text.isSpace_eq_false_of_isDigit (hv c hmem)] at hc
  exact Bool.false_ne_true hc

section cut
variable {v : Text} (hv : (Regex.group 1 (.seq (.group 2 (.plus (.chars Char.isDigit)))
  (.chars Text.isSpace))).run v = [])
include hv

theorem first_neighbours (l : List ℕ) :
    ∃ m, m.text = neighboursText l ∧
      Regex.First (.star (.group 1 (.seq (.group 2 (.plus (.chars Char.isDigit)))
        (.chars Text.isSpace)))) (neighboursText l ++ v) m := by
  induction l with
  | nil => exact ⟨⟨[], [], v⟩, rfl, Regex.first_star_stop hv⟩
  | cons a l ih =>
    obtain ⟨m', htext', hfirst'⟩ := ih
    obtain ⟨m, htext, hrest, hfirst⟩ := first_neighbour a (neighboursText l ++ v)
    refine ⟨m.append m', ?_, ?_⟩
    · change m.text ++ m'.text = _
      rw [htext, htext', neighboursText_cons, List.append_assoc, List.singleton_append]
    · rw [neighboursText_cons, List.append_assoc, List.cons_append]
      apply hfirst.star_round
      · rw [hrest]
        simp
        omega
      · rw [hrest]
        exact hfirst'

/-- The expression takes the neighbours that have a blank behind them. -/
theorem search_neighbours (l : List ℕ) :
    ∃ m, Regex.search neighboursRegex ("Neighbours:".toList ++ ' ' :: (neighboursText l ++ v)) =
        some m ∧ m.text = ' ' :: neighboursText l := by
  obtain ⟨m, htext, hfirst⟩ := first_neighbours hv l
  have hblank : Regex.First (.chars Text.isSpace) (' ' :: (neighboursText l ++ v))
      ⟨[' '], [], neighboursText l ++ v⟩ := Regex.first_chars rfl _
  have hlabel : ∀ c ∈ "Neighbours:".toList, Text.isSpace c = false := by
    have hall : ("Neighbours:".toList.all fun c => !Text.isSpace c) = true := by decide
    intro c hc
    simpa using List.all_eq_true.1 hall c hc
  refine ⟨Regex.Found.append ⟨[' '], [], neighboursText l ++ v⟩ m, ?_, ?_⟩
  · unfold neighboursRegex
    rw [Regex.search_skip _ hlabel]
    exact (hblank.seq hfirst).search
  · exact congrArg (' ' :: ·) htext

end cut

theorem neighboursText_eq {l : List ℕ} (hne : l ≠ []) :
    neighboursText l = [' '].intercalate (l.map Text.decimal) ++ [' '] := by
  induction l with
  | nil => exact absurd rfl hne
  | cons a l ih =>
    cases l with
    | nil => simp [neighboursText]
    | cons b l =>
      rw [neighboursText_cons, ih (by simp)]
      simp only [List.map_cons, List.intercalate_cons_cons, List.append_assoc, List.cons_append,
        List.nil_append]

theorem split_strip_neighboursText {l : List ℕ} (hne : l ≠ []) :
    Text.split ' ' (Text.strip (' ' :: neighboursText l)) = l.map Text.decimal := by
  have hwords : ∀ w ∈ l.map Text.decimal, w ≠ [] ∧ ∀ c ∈ w, Text.isSpace c = false := by
    intro w hw
    obtain ⟨a, _, rfl⟩ := List.mem_map.1 hw
    exact ⟨Text.decimal_ne_nil a, fun c hc =>
      Text.isSpace_eq_false_of_isDigit (Text.isDigit_of_mem_decimal hc)⟩
  rw [neighboursText_eq hne]
  exact Text.split_strip_intercalate (by simpa using hne) hwords

theorem mapM_toInt_decimal (l : List ℕ) :
    (l.map Text.decimal).mapM Text.toInt = some (l.map fun a => (a : ℤ)) := by
  induction l with
  | nil => rfl
  | cons a l ih => simp [Text.toInt_decimal, ih]

/-- The blank of an empty list is matched, and `int` of the empty string raises an exception. -/
theorem neighboursField_eq {v : Text} (hv : (Regex.group 1 (.seq
      (.group 2 (.plus (.chars Char.isDigit))) (.chars Text.isSpace))).run v = [])
    (l : List ℕ) (default : List ℤ) :
    neighboursField ("Neighbours:".toList ++ ' ' :: (neighboursText l ++ v)) default =
      if l = [] then none else some (l.map fun a => (a : ℤ)) := by
  obtain ⟨m, hsearch, htext⟩ := search_neighbours hv l
  unfold neighboursField
  rw [hsearch]
  change (Text.split ' ' (Text.strip m.text)).mapM Text.toInt = _
  rw [htext]
  by_cases hl : l = []
  · rw [if_pos hl, hl]
    decide
  · rw [if_neg hl, split_strip_neighboursText hl, mapM_toInt_decimal]

theorem neighboursField_of_ne_nil {l : List ℕ} (hne : l ≠ []) (default : List ℤ) :
    neighboursField (neighboursLine l) default = some (l.map fun a => (a : ℤ)) :=
  (neighboursField_eq (v := ['\n']) rfl l default).trans (if_neg hne)

theorem neighboursField_nil (default : List ℤ) :
    neighboursField (neighboursLine []) default = none :=
  neighboursField_eq (v := ['\n']) rfl [] default

/-! ### The record of a block -/

section record
variable (line : ℕ → Text) {arfcn cell lac : ℕ} {level : ℤ} {neighbours : List ℕ}
  (harfcn : line 2 = logLine "ARFCN: " (Text.decimal arfcn))
  (hcell : line 3 = logLine "Cell ID: " (Text.decimal cell))
  (hlac : line 4 = logLine "LAC: " (Text.decimal lac))
  (hlevel : line 6 = logLine "rxlev: " (Text.decimalInt level))
  (hneighbours : line 7 = neighboursLine neighbours)
include harfcn hcell hlac hlevel hneighbours

/-- A block without neighbours raises an exception. -/
theorem parseStation_of_nil (hnil : neighbours = []) : parseStation line = none := by
  unfold parseStation
  rw [harfcn, hcell, hlac, hlevel, hneighbours]
  simp only [intField_decimal (by decide : "ARFCN: ".toList = "ARFCN:".toList ++ [' ']),
    intField_decimal (by decide : "Cell ID: ".toList = "Cell ID:".toList ++ [' ']),
    intField_decimal (by decide : "LAC: ".toList = "LAC:".toList ++ [' ']), intField_level, hnil,
    neighboursField_nil]
  rfl

end record
end ImsiCatcher

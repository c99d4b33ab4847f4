import ImsiCatcher.Sightings
import Mathlib.Data.List.TakeWhile

/-!
# The record of a block, field by field

What the parser keeps of the lines of a whole block. A country is cut at its first character
that is not of a word, an empty provider and a reception level of one digit are not matched,
every list of octets begins with an empty text, and an SI 2bis that is printed where the
parser looks for an SI 2ter is lost.
-/

namespace ImsiCatcher

/-! ### What a field can be -/

/-- A field that is matched stands behind its label and one character of white space. -/
theorem exists_of_fieldMatch {label : String} {value : Regex} {line v : Text}
    (h : fieldMatch label value line = some v) :
    (∃ pre c rest, line = pre ++ (label.toList ++ c :: (v ++ rest))) ∧
      ∃ s, ∃ m ∈ value.run s, m.text = v := by
  obtain ⟨m, hsearch, hgroup⟩ := Option.bind_eq_some_iff.1 h
  obtain ⟨s, ⟨pre, hpre⟩, hm⟩ := Regex.exists_of_search hsearch
  have hall := Regex.append_rest_of_mem_run hm
  obtain ⟨x, hx, w, hw, rfl⟩ := Regex.mem_run_seq.1 hm
  obtain ⟨y, hy, z, hz, rfl⟩ := Regex.mem_run_seq.1 hw
  obtain ⟨c, _, -, -, rfl⟩ := Regex.mem_run_chars hy
  rw [Regex.run] at hz
  obtain ⟨u, hu, rfl⟩ := List.mem_map.1 hz
  have hv : u.text = v := by
    simpa [Regex.Found.append, Regex.Found.groupText] using hgroup
  have hlabel : x.text = label.toList := by
    rw [Regex.run] at hx
    split at hx
    · rw [List.mem_singleton.1 hx]
    · exact absurd hx List.not_mem_nil
  refine ⟨⟨pre, c, u.rest, ?_⟩, _, u, hu, hv⟩
  rw [← hpre, ← hall]
  simp [Regex.Found.append, hlabel, hv]

/-- A field whose label has a character that the line has not is not matched. -/
theorem fieldMatch_eq_none {label : String} {value : Regex} {line : Text} {c : Char}
    (hc : c ∈ label.toList) (hline : c ∉ line) : fieldMatch label value line = none := by
  rw [Option.eq_none_iff_forall_ne_some]
  intro v hv
  obtain ⟨⟨pre, d, rest, rfl⟩, _⟩ := exists_of_fieldMatch hv
  exact hline (by simp [hc])

theorem fieldMatch_chars {label : String} {p : Char → Bool} {line v : Text}
    (h : fieldMatch label (.plus (.chars p)) line = some v) : v ≠ [] ∧ ∀ c ∈ v, p c = true := by
  obtain ⟨_, s, m, hm, rfl⟩ := exists_of_fieldMatch h
  exact Regex.mem_run_plus_chars hm

/-- A text of which `p` holds is taken up to the first character of which it does not. -/
theorem fieldMatch_takeWhile {label field : String} (h : label.toList = field.toList ++ [' '])
    {p : Char → Bool} (hbreak : p '\n' = false) {v : Text} (hv : ∃ c ∈ v.head?, p c = true) :
    fieldMatch field (.plus (.chars p)) (logLine label v) = some (v.takeWhile p) := by
  have hfirst : Regex.First (.plus (.chars p)) (v ++ ['\n'])
      ⟨v.takeWhile p, [], v.dropWhile p ++ ['\n']⟩ := by
    have hsplit : v ++ ['\n'] = v.takeWhile p ++ (v.dropWhile p ++ ['\n']) := by
      rw [← List.append_assoc, List.takeWhile_append_dropWhile]
    rw [hsplit]
    apply Regex.first_plus_chars
    · obtain ⟨c, hc, hp⟩ := hv
      cases v with
      | nil => cases hc
      | cons d v =>
        obtain rfl : d = c := by simpa using hc
        simp [hp]
    · intro c hc
      exact (List.mem_takeWhile_imp hc)
    · intro c hc
      cases hd : v.dropWhile p with
      | nil =>
        rw [hd] at hc
        obtain rfl : c = '\n' := by simpa using hc.symm
        exact hbreak
      | cons d w =>
        rw [hd] at hc
        obtain rfl : d = c := by simpa using hc
        have hne : v.dropWhile p ≠ [] := by rw [hd]; simp
        have hnot := List.head_dropWhile_not p hne
        simpa [hd] using hnot
  rw [logLine_eq h, fieldMatch_printed hfirst]

/-! ### Country and provider -/

theorem country_ne_nil (line : Text) :
    textField "Country:" (.plus (.chars Text.isWord)) line "Nowhere".toList ≠ [] ∧
      ∀ c ∈ textField "Country:" (.plus (.chars Text.isWord)) line "Nowhere".toList,
        Text.isWord c = true := by
  unfold textField
  cases h : fieldMatch "Country:" (.plus (.chars Text.isWord)) line with
  | none =>
    refine ⟨by decide, ?_⟩
    have hall : "Nowhere".toList.all Text.isWord = true := by decide
    exact List.all_eq_true.1 hall
  | some v => exact fieldMatch_chars h

theorem country_of_head {v : Text} (hv : ∃ c ∈ v.head?, Text.isWord c = true) (default : Text) :
    textField "Country:" (.plus (.chars Text.isWord)) (logLine "Country: " v) default =
      v.takeWhile Text.isWord := by
  unfold textField
  rw [fieldMatch_takeWhile (by decide) rfl hv]
  rfl

/-- A country comes back exactly if it is made of the characters of a word. -/
theorem country_eq_iff (v : Text) :
    textField "Country:" (.plus (.chars Text.isWord)) (logLine "Country: " v)
        "Nowhere".toList = v ↔
      v ≠ [] ∧ ∀ c ∈ v, Text.isWord c = true := by
  constructor
  · intro h
    have hword := country_ne_nil (logLine "Country: " v)
    rw [h] at hword
    exact hword
  · rintro ⟨hne, hall⟩
    obtain ⟨c, w, rfl⟩ := List.exists_cons_of_ne_nil hne
    rw [country_of_head ⟨c, rfl, hall c List.mem_cons_self⟩]
    exact List.takeWhile_eq_self_iff.2 hall

/-- The beginning of a country comes back exactly if it begins like a word. -/
theorem country_prefix_iff (v : Text) :
    textField "Country:" (.plus (.chars Text.isWord)) (logLine "Country: " v)
        "Nowhere".toList <+: v ↔
      ∃ c ∈ v.head?, Text.isWord c = true := by
  constructor
  · intro h
    obtain ⟨hne, hall⟩ := country_ne_nil (logLine "Country: " v)
    obtain ⟨c, w, hw⟩ := List.exists_cons_of_ne_nil hne
    rw [hw] at h hall
    obtain ⟨w', hw'⟩ := h
    exact ⟨c, by rw [← hw']; rfl, hall c List.mem_cons_self⟩
  · intro h
    rw [country_of_head h]
    exact List.takeWhile_prefix _

theorem takeWhile_isDot {v : Text} (hv : '\n' ∉ v) : v.takeWhile Text.isDot = v := by
  apply List.takeWhile_eq_self_iff.2
  intro c hc
  refine decide_eq_true ?_
  rintro rfl
  exact hv hc

theorem exists_head_isDot {v : Text} (hv : '\n' ∉ v) (hne : v ≠ []) :
    ∃ c ∈ v.head?, Text.isDot c = true := by
  obtain ⟨c, w, rfl⟩ := List.exists_cons_of_ne_nil hne
  refine ⟨c, rfl, decide_eq_true ?_⟩
  rintro rfl
  exact hv List.mem_cons_self

theorem provider_eq_iff {v : Text} (hv : '\n' ∉ v) :
    textField "Provider:" (.plus (.chars Text.isDot)) (logLine "Provider: " v)
        "Carry".toList = v ↔ v ≠ [] := by
  unfold textField
  constructor
  · rintro h rfl
    cases hmatch : fieldMatch "Provider:" (.plus (.chars Text.isDot))
        (logLine "Provider: " []) with
    | none =>
      rw [hmatch] at h
      exact absurd h (by decide)
    | some w =>
      rw [hmatch] at h
      exact (fieldMatch_chars hmatch).1 h
  · intro hne
    rw [fieldMatch_takeWhile (by decide) rfl (exists_head_isDot hv hne), takeWhile_isDot hv]
    rfl

/-! ### Colour code and frames -/

theorem bsic_eq (m n : ℕ) (default : Text) :
    textField "BSIC:" (.seq (.plus (.chars Char.isDigit))
        (.seq (.lit [',']) (.plus (.chars Char.isDigit))))
      (logLine "BSIC: " (Text.decimal m ++ [','] ++ Text.decimal n)) default =
        Text.decimal m ++ [','] ++ Text.decimal n := by
  have hncc : Regex.First (.plus (.chars Char.isDigit))
      (Text.decimal m ++ (',' :: (Text.decimal n ++ ['\n'])))
      ⟨Text.decimal m, [], ',' :: (Text.decimal n ++ ['\n'])⟩ := by
    apply Regex.first_plus_chars (Text.decimal_ne_nil m)
      fun _ hc => Text.isDigit_of_mem_decimal hc
    intro c hc
    obtain rfl : c = ',' := by simpa using hc.symm
    rfl
  have hfirst := hncc.seq ((Regex.first_lit [','] (Text.decimal n ++ ['\n'])).seq (first_digits n))
  have hline : Text.decimal m ++ ',' :: (Text.decimal n ++ ['\n']) =
      Text.decimal m ++ [','] ++ Text.decimal n ++ ['\n'] := by simp
  have hlabel : "BSIC: ".toList = "BSIC:".toList ++ [' '] := by decide
  rw [hline] at hfirst
  unfold textField
  rw [logLine_eq hlabel, fieldMatch_printed hfirst, Option.getD_some, List.append_assoc]
  rfl

/-- The octets of a frame, as they are printed. -/
def octetTexts (data : Octets) : List Text := (data.take 23).map fun o => Text.hexPadded 2 o.toNat

/-- The list that is made of a frame: the blank that the tag ends with is taken for a separator. -/
def frameTexts (data : Octets) : List Text := if data = [] then [] else [] :: octetTexts data

theorem flatMap_blank_eq (w : Text) (data : Octets) :
    w ++ data.flatMap (fun o => ' ' :: Text.hexPadded 2 o.toNat) =
      [' '].intercalate (w :: data.map fun o => Text.hexPadded 2 o.toNat) := by
  induction data generalizing w with
  | nil => simp
  | cons o data ih =>
    rw [List.flatMap_cons, List.cons_append, ih, List.map_cons, List.intercalate_cons_cons]
    simp

theorem blank_notMem_hexPadded (width n : ℕ) : ' ' ∉ Text.hexPadded width n := by
  intro h
  rcases List.mem_append.1 h with h | h
  · exact absurd (List.eq_of_mem_replicate h) (by decide)
  · obtain ⟨d, hd, heq⟩ := Text.exists_digitChar_of_mem_hex h
    revert heq
    exact (by decide : ∀ d < 16, ' ' ≠ d.digitChar) d hd

theorem frameField_printed {tag label : String} (h : tag.toList = label.toList ++ [' '])
    (hempty : fieldMatch label (.plus (.chars Text.isDot)) (logLine tag []) = none)
    (data : Octets) : frameField label (logFrame tag data) [] = frameTexts data := by
  unfold frameField frameTexts
  by_cases hdata : data = []
  · subst hdata
    have hline : logFrame tag [] = logLine tag [] := rfl
    rw [hline, hempty, if_pos rfl]
    rfl
  · let v := (data.take 23).flatMap fun o => ' ' :: Text.hexPadded 2 o.toNat
    have hbreak : '\n' ∉ v := by
      intro hmem
      obtain ⟨o, _, ho⟩ := List.mem_flatMap.1 hmem
      rcases List.mem_cons.1 ho with ho | ho
      · exact absurd ho (by decide)
      · exact Text.newline_notMem_hexPadded _ _ ho
    have hne : v ≠ [] := by
      obtain ⟨o, rest, rfl⟩ := List.exists_cons_of_ne_nil hdata
      simp [v]
    have hline : logFrame tag data = logLine tag v := rfl
    have hwords : v = [' '].intercalate ([] :: octetTexts data) := flatMap_blank_eq [] _
    have hsplit : Text.split ' ' v = [] :: octetTexts data := by
      rw [hwords]
      apply List.splitOn_intercalate ' ' _ (by simp)
      intro w hw hblank
      rcases List.mem_cons.1 hw with rfl | hw
      · exact absurd hblank List.not_mem_nil
      · obtain ⟨o, _, rfl⟩ := List.mem_map.1 hw
        exact blank_notMem_hexPadded _ _ hblank
    rw [hline, fieldMatch_takeWhile h rfl (exists_head_isDot hbreak hne), takeWhile_isDot hbreak,
      Option.map_some, hsplit, if_neg hdata]
    rfl

theorem frameField_of_notMem {label : String} {line : Text} {c : Char} (hc : c ∈ label.toList)
    (hline : c ∉ line) : frameField label line [] = [] := by
  unfold frameField
  rw [fieldMatch_eq_none hc hline]
  rfl

theorem letter_notMem_si2bis (data : Octets) : 't' ∉ logFrame "SI2bis: " data := by
  intro h
  rcases List.mem_append.1 h with h | h
  · rcases List.mem_append.1 h with h | h
    · exact absurd h (by decide)
    · obtain ⟨o, _, ho⟩ := List.mem_flatMap.1 h
      rcases List.mem_cons.1 ho with ho | ho
      · exact absurd ho (by decide)
      · rcases List.mem_append.1 ho with ho | ho
        · exact absurd (List.eq_of_mem_replicate ho) (by decide)
        · obtain ⟨d, hd, heq⟩ := Text.exists_digitChar_of_mem_hex ho
          revert heq
          exact (by decide : ∀ d < 16, 't' ≠ d.digitChar) d hd
  · exact absurd h (by decide)

/-! ### The whole record -/

structure Taken (networks : List GsmNetwork) (s : Gsm48Sysinfo) (meas : RxMeasStat)
    (b : BaseStationInformation) : Prop where
  country : b.country = textField "Country:" (.plus (.chars Text.isWord))
    (logLine "Country: " (gsmGetMcc networks s.mcc)) "Nowhere".toList
  provider : b.provider = textField "Provider:" (.plus (.chars Text.isDot))
    (logLine "Provider: " (gsmGetMnc networks s.mcc s.mnc)) "Carry".toList
  arfcn : b.arfcn = s.arfcn
  cell : b.cell = s.cellId
  lac : b.lac = s.lac
  bsic : b.bsic = Text.decimal (s.bsic >>> 3) ++ [','] ++ Text.decimal (s.bsic &&& 7)
  rxlev : b.rxlev = if 0 ≤ meas.meanRxlev ∧ meas.meanRxlev < 10 then 0 else meas.meanRxlev
  neighbours : b.neighbours = s.printedNeighbours.map fun a => (a : ℤ)
  t1 : b.systemInfoT1 = frameTexts s.si1Msg
  t3 : b.systemInfoT3 = frameTexts s.si3Msg
  t4 : b.systemInfoT4 = frameTexts s.si4Msg
  t2 : b.systemInfoT2 = frameTexts s.si2Msg
  t2ter : b.systemInfoT2ter = if s.si2ter then frameTexts s.si2tMsg else []
  t2bis : b.systemInfoT2bis = if s.si2ter ∧ s.si2bis then frameTexts s.si2bMsg else []

/-- The lines that the optional frames are looked for in. -/
theorem frameField_optional (s : Gsm48Sysinfo) (tail : List Text) :
    let lines := (if s.si2ter then [logFrame "SI2ter: " s.si2tMsg] else []) ++
      (if s.si2bis then [logFrame "SI2bis: " s.si2bMsg] else []) ++
      [logLine "[EndInfo]" [], logLine "" []] ++ tail
    frameField "SI2ter:" (lines.getD 0 []) [] =
        (if s.si2ter then frameTexts s.si2tMsg else []) ∧
      frameField "SI2bis:" (lines.getD 1 []) [] =
        if s.si2ter ∧ s.si2bis then frameTexts s.si2bMsg else [] := by
  have hter : frameField "SI2ter:" (logFrame "SI2ter: " s.si2tMsg) [] = frameTexts s.si2tMsg :=
    frameField_printed (by decide) (by decide) _
  have hbis : frameField "SI2bis:" (logFrame "SI2bis: " s.si2bMsg) [] = frameTexts s.si2bMsg :=
    frameField_printed (by decide) (by decide) _
  have hlost : frameField "SI2ter:" (logFrame "SI2bis: " s.si2bMsg) [] = [] :=
    frameField_of_notMem (c := 't') (by decide) (letter_notMem_si2bis _)
  have hend : ∀ label, 'S' ∈ label.toList → frameField label (logLine "[EndInfo]" []) [] = [] :=
    fun label h => frameField_of_notMem h (by decide)
  have hblank : ∀ label, 'S' ∈ label.toList → frameField label (logLine "" []) [] = [] :=
    fun label h => frameField_of_notMem h (by decide)
  intro lines
  cases h2ter : s.si2ter <;> cases h2bis : s.si2bis
  all_goals simp only [lines, h2ter, h2bis, if_true, Bool.false_eq_true, if_false, and_self,
    and_false, false_and]
  · exact ⟨hend _ (by decide), hblank _ (by decide)⟩
  · exact ⟨hlost, hend _ (by decide)⟩
  · exact ⟨hter, hend _ (by decide)⟩
  · exact ⟨hter, hbis⟩

/-- The fields that are numbers decide whether there is a record; the others are kept as they
are matched. -/
theorem parseStation_of_fields (line : ℕ → Text) {arfcn cell lac rxlev : ℤ} {neighbours : List ℤ}
    (harfcn : intField "ARFCN:" (.plus (.chars Char.isDigit)) (line 2) 0 = some arfcn)
    (hcell : intField "Cell ID:" (.plus (.chars Char.isDigit)) (line 3) 0 = some cell)
    (hlac : intField "LAC:" (.plus (.chars Char.isDigit)) (line 4) 0 = some lac)
    (hrxlev : intField "rxlev:" (.seq (.chars Text.isDot) (.plus (.chars Char.isDigit)))
      (line 6) 0 = some rxlev)
    (hneighbours : neighboursField (line 7) [] = some neighbours) :
    ∃ sighting, parseStation line = some sighting ∧ sighting.station = {
      country := textField "Country:" (.plus (.chars Text.isWord)) (line 0) "Nowhere".toList
      provider := textField "Provider:" (.plus (.chars Text.isDot)) (line 1) "Carry".toList
      arfcn := arfcn
      cell := cell
      lac := lac
      bsic := textField "BSIC:" (.seq (.plus (.chars Char.isDigit))
        (.seq (.lit [',']) (.plus (.chars Char.isDigit)))) (line 5) []
      rxlev := rxlev
      neighbours := neighbours
      systemInfoT1 := frameField "SI1:" (line 8) []
      systemInfoT3 := frameField "SI3:" (line 9) []
      systemInfoT4 := frameField "SI4:" (line 10) []
      systemInfoT2 := frameField "SI2:" (line 11) []
      systemInfoT2ter := frameField "SI2ter:" (line 12) []
      systemInfoT2bis := frameField "SI2bis:" (line 13) [] } := by
  unfold parseStation
  simp only [harfcn, hcell, hlac, hrxlev, hneighbours]
  exact ⟨_, rfl, rfl⟩

theorem parseStation_block (networks : List GsmNetwork) {s : Gsm48Sysinfo} (meas : RxMeasStat)
    (h1 : s.si1 = true) (h2 : s.si2 = true) (h3 : s.si3 = true) (h4 : s.si4 = true)
    (hne : s.printedNeighbours ≠ []) (tail : List Text) :
    ∃ sighting, parseStation (fun i => ((sysinfoLines networks s meas).tail ++ tail).getD i []) =
      some sighting ∧ Taken networks s meas sighting.station := by
  obtain ⟨hter, hbis⟩ := frameField_optional s tail
  have hlines : (sysinfoLines networks s meas).tail ++ tail = parameterLines networks s meas ++
      [logFrame "SI1: " s.si1Msg, logFrame "SI3: " s.si3Msg, logFrame "SI4: " s.si4Msg,
        logFrame "SI2: " s.si2Msg] ++
      ((if s.si2ter then [logFrame "SI2ter: " s.si2tMsg] else []) ++
        (if s.si2bis then [logFrame "SI2bis: " s.si2bMsg] else []) ++
        [logLine "[EndInfo]" [], logLine "" []] ++ tail) := by
    rw [sysinfoLines_eq, frameLines, h1, h2, h3, h4]
    simp
  rw [hlines]
  generalize (if s.si2ter then [logFrame "SI2ter: " s.si2tMsg] else []) ++
      (if s.si2bis then [logFrame "SI2bis: " s.si2bMsg] else []) ++
      [logLine "[EndInfo]" [], logLine "" []] ++ tail = optional at hter hbis
  let line : ℕ → Text := fun i => (parameterLines networks s meas ++
      [logFrame "SI1: " s.si1Msg, logFrame "SI3: " s.si3Msg, logFrame "SI4: " s.si4Msg,
        logFrame "SI2: " s.si2Msg] ++ optional).getD i []
  obtain ⟨sighting, hparse, hstation⟩ := parseStation_of_fields line
    (intField_decimal (by decide) s.arfcn 0) (intField_decimal (by decide) s.cellId 0)
    (intField_decimal (by decide) s.lac 0) (intField_level meas.meanRxlev 0)
    (neighboursField_of_ne_nil hne [])
  have h1 : frameField "SI1:" (line 8) [] = frameTexts s.si1Msg :=
    frameField_printed (by decide) (by decide) _
  have h3 : frameField "SI3:" (line 9) [] = frameTexts s.si3Msg :=
    frameField_printed (by decide) (by decide) _
  have h4 : frameField "SI4:" (line 10) [] = frameTexts s.si4Msg :=
    frameField_printed (by decide) (by decide) _
  have h2 : frameField "SI2:" (line 11) [] = frameTexts s.si2Msg :=
    frameField_printed (by decide) (by decide) _
  have hbsic : textField "BSIC:" (.seq (.plus (.chars Char.isDigit))
      (.seq (.lit [',']) (.plus (.chars Char.isDigit)))) (line 5) [] = _ := bsic_eq _ _ _
  rw [h1, h3, h4, h2, hbsic] at hstation
  refine ⟨sighting, hparse, ?_⟩
  rw [hstation]
  constructor
  case t2ter => exact hter
  case t2bis => exact hbis
  case country => rfl
  case provider => rfl
  all_goals dsimp only

end ImsiCatcher

import ImsiCatcher.LogLines
import ImsiCatcher.PchReadings

/-!
# The assignments that a scan counts

What `PCHThread.run` counts of the assignments that `gsm48_rx_imm_ass` prints. The word that
it takes for a hopping assignment is a part of the word that marks the other kind.
-/

namespace ImsiCatcher

/-- An assignment that is not a packet assignment, and what the variable of its subchannel
holds before the channel number is decoded. -/
structure ImmAss where
  octets : Octets
  subch : UInt8
  notPacket : octet octets 3 &&& 0xf0 = 0

def ImmAss.isHopping (m : ImmAss) : Bool := hoppingBit m.octets ≠ 0

def immAssOutput (msgs : List ImmAss) : Text :=
  msgs.flatMap fun m => gsm48RxImmAss m.subch m.octets

/-- The callback is called once, with the number of messages of each kind. -/
def AssignmentsCounted (w : PchScan) (msgs : List ImmAss) : Prop :=
  w.Results fun result =>
    result.assignmentsNonHopping = msgs.countP (fun m => !m.isHopping) ∧
    result.assignmentsHopping = msgs.countP (·.isHopping)

/-! ### The printed lines -/

def mentionsAssignment (line : Text) : Bool := Text.contains "IMM".toList line

theorem seesEntries_imm : SeesEntries (Text.contains "IMM".toList) :=
  seesEntries_contains (by decide) (by decide) (by decide) (by decide)

theorem seesEntries_hop : SeesEntries (Text.contains "HOP".toList) :=
  seesEntries_contains (by decide) (by decide) (by decide) (by decide)

theorem seesEntries_isHopping : SeesEntries PchCounts.isHopping :=
  seesEntries_imm.and seesEntries_hop id

theorem seesEntries_isNonHopping : SeesEntries PchCounts.isNonHopping :=
  seesEntries_imm.and seesEntries_hop not

/-- An entry about an assignment: its text, and the colours before the line break. -/
theorem exists_entry_of_head {line : ℕ} {head rest : Text}
    (himm : Text.contains "IMM".toList head = true)
    (hhop : Text.contains "HOP".toList head = true) (hbreak : '\n' ∉ head ++ rest) :
    ∃ w, logp line (head ++ rest) ++ logpc ['\n'] = logText [w] ∧ IsEntry w ∧
      PchCounts.isHopping w = true ∧ PchCounts.isNonHopping w = false := by
  refine ⟨_, logp_append_logpc line _, (isEntry_logEntry line hbreak).append (by decide), ?_⟩
  have hentry : ∀ sub, Text.contains sub head = true → Text.contains sub
      (logEntry line (head ++ rest) ++ (resetColor ++ drrColor)) = true := fun sub hsub =>
    Text.contains_append_left (contains_logEntry line (Text.contains_append_left hsub rest)) _
  unfold PchCounts.isHopping PchCounts.isNonHopping
  rw [hentry _ himm, hentry _ hhop]
  exact ⟨rfl, rfl⟩

/-- Whatever the message, its line is taken for a hopping assignment. -/
theorem exists_entry (m : ImmAss) :
    ∃ w, gsm48RxImmAss m.subch m.octets = logText [w] ∧ IsEntry w ∧
      PchCounts.isHopping w = true ∧ PchCounts.isNonHopping w = false := by
  unfold gsm48RxImmAss
  rw [if_neg (not_not.2 m.notPacket)]
  dsimp only
  split
  · simp only [List.append_assoc]
    apply exists_entry_of_head (by decide) (by decide)
    simp only [List.mem_append, not_or, Text.newline_notMem_decimal,
      Text.newline_notMem_hexPadded, not_false_eq_true, true_and]
    decide
  · simp only [List.append_assoc]
    apply exists_entry_of_head (by decide) (by decide)
    simp only [List.mem_append, not_or, Text.newline_notMem_decimal,
      Text.newline_notMem_hexPadded, not_false_eq_true, true_and]
    decide

theorem exists_entries (msgs : List ImmAss) :
    ∃ ws, immAssOutput msgs = logText ws ∧ ws.length = msgs.length ∧
      ∀ w ∈ ws, IsEntry w ∧ PchCounts.isHopping w = true ∧ PchCounts.isNonHopping w = false := by
  induction msgs with
  | nil => exact ⟨[], rfl, rfl, by simp⟩
  | cons m msgs ih =>
    obtain ⟨w, htext, hw⟩ := exists_entry m
    obtain ⟨ws, htexts, hlength, hws⟩ := ih
    refine ⟨w :: ws, ?_, by rw [List.length_cons, hlength, List.length_cons], ?_⟩
    · change gsm48RxImmAss m.subch m.octets ++ immAssOutput msgs = _
      rw [htext, htexts, ← logText_append]
      rfl
    · intro v hv
      rcases List.mem_cons.1 hv with rfl | hv
      · exact hw
      · exact hws v hv

theorem countP_lines_immAssOutput (msgs : List ImmAss) :
    (Text.lines (immAssOutput msgs)).countP PchCounts.isHopping = msgs.length ∧
      (Text.lines (immAssOutput msgs)).countP PchCounts.isNonHopping = 0 := by
  obtain ⟨ws, htext, hlength, hws⟩ := exists_entries msgs
  have hentries : ∀ w ∈ ws, IsEntry w := fun w hw => (hws w hw).1
  rw [htext, countP_lines_logText seesEntries_isHopping hentries,
    countP_lines_logText seesEntries_isNonHopping hentries, ← hlength]
  refine ⟨List.countP_eq_length.2 fun w hw => (hws w hw).2.1, List.countP_eq_zero.2 fun w hw => ?_⟩
  rw [(hws w hw).2.2]
  decide

/-! ### The result of the scan -/

theorem countP_of_filter_eq {q r : Text → Bool} (hqr : ∀ l, q l = true → r l = true)
    {ls ls' : List Text} (h : ls.filter r = ls'.filter r) : ls.countP q = ls'.countP q := by
  have hfilter : ∀ l : List Text, l.countP q = (l.filter r).countP q := by
    intro l
    rw [List.countP_filter]
    congr 1
    funext x
    cases hx : q x with
    | false => rfl
    | true => rw [hqr x hx]; rfl
  rw [hfilter ls, hfilter ls', h]

/-- Both numbers are right exactly if no message describes a channel that does not hop. -/
theorem assignmentsCounted_iff {w : PchScan} {ls : List Text} (hscan : w.OneScan ls)
    (msgs : List ImmAss)
    (hread : ls.filter mentionsAssignment =
      (Text.lines (immAssOutput msgs)).filter mentionsAssignment) :
    AssignmentsCounted w msgs ↔ ∀ m ∈ msgs, m.isHopping = true := by
  obtain ⟨hhop, hnon⟩ := countP_lines_immAssOutput msgs
  have hmentions : ∀ l, PchCounts.isHopping l = true → mentionsAssignment l = true := by
    intro l hl
    exact (Bool.and_eq_true_iff.1 hl).1
  have hmentions' : ∀ l, PchCounts.isNonHopping l = true → mentionsAssignment l = true := by
    intro l hl
    exact (Bool.and_eq_true_iff.1 hl).1
  unfold AssignmentsCounted
  rw [hscan.results_iff, countP_of_filter_eq hmentions hread,
    countP_of_filter_eq hmentions' hread, hhop, hnon]
  constructor
  · rintro ⟨hzero, _⟩ m hm
    have hnot := List.countP_eq_zero.1 hzero.symm m hm
    simpa using hnot
  · intro hall
    refine ⟨(List.countP_eq_zero.2 fun m hm => ?_).symm, (List.countP_eq_length.2 hall).symm⟩
    rw [hall m hm]
    decide

def sdcchAssignment (hops : Bool) : ImmAss where
  octets := [0x2d, 0x06, 0x3f, 0x00, 0x29, if hops then 0x70 else 0x60, 0x01, 0x7f, 0, 0, 0, 0]
  subch := 0
  notPacket := by cases hops <;> decide

theorem assignmentsCounted_iff_pair :
    AssignmentsCounted
      (.ofLines 5 (Text.lines (immAssOutput [sdcchAssignment true, sdcchAssignment true])))
      [sdcchAssignment true, sdcchAssignment true] :=
  (assignmentsCounted_iff (PchScan.oneScan_ofLines (by decide +kernel) (by decide +kernel))
    [sdcchAssignment true, sdcchAssignment true] rfl).2 (by decide)

/-- An assignment of a channel that does not hop is counted as hopping. -/
theorem not_assignmentsCounted_nonHopping :
    ¬ AssignmentsCounted (.ofLines 5 (Text.lines (immAssOutput [sdcchAssignment false])))
      [sdcchAssignment false] := by
  unfold AssignmentsCounted
  rw [(PchScan.oneScan_ofLines (by decide +kernel) (by decide +kernel)).results_iff]
  decide +kernel

end ImsiCatcher

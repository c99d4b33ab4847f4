import ImsiCatcher.Ccch

/-!
# The lines of the log

A log call puts a colour before its text and resets it behind. A text that ends a line leaves
the reset in front of the next line, so a line of the output is an entry of the log with a
reset before it, or without one at the very beginning. Neither tells on a search for a word
that holds no control character.
-/

namespace ImsiCatcher

/-- The output of log calls of which each ends the line that it begins. -/
def logText (ws : List Text) : Text := ws.flatMap fun w => w ++ '\n' :: resetColor

/-- An entry of the log: the control character of a colour, and no line break. -/
def IsEntry (w : Text) : Prop := w.head? = some '\x1b' ∧ '\n' ∉ w

theorem logText_append (ws ws' : List Text) : logText (ws ++ ws') = logText ws ++ logText ws' :=
  List.flatMap_append

def logEntry (line : ℕ) (text : Text) : Text :=
  drrColor ++ "<0001> pch_scan.c:".toList ++ Text.decimal line ++ [' '] ++ text

theorem isEntry_logEntry (line : ℕ) {text : Text} (h : '\n' ∉ text) :
    IsEntry (logEntry line text) := by
  refine ⟨rfl, ?_⟩
  have hline := Text.newline_notMem_decimal line
  unfold logEntry
  simp only [List.mem_append, not_or]
  exact ⟨⟨⟨⟨by decide, by decide⟩, hline⟩, by decide⟩, h⟩

theorem IsEntry.append {w v : Text} (hw : IsEntry w) (hv : '\n' ∉ v) : IsEntry (w ++ v) := by
  obtain ⟨hhead, hbreak⟩ := hw
  refine ⟨?_, ?_⟩
  · rw [List.head?_append, hhead]
    rfl
  · rw [List.mem_append, not_or]
    exact ⟨hbreak, hv⟩

theorem IsEntry.exists_cons {w : Text} (hw : IsEntry w) : ∃ v, w = '\x1b' :: v ∧ '\n' ∉ v := by
  obtain ⟨hhead, hbreak⟩ := hw
  cases w with
  | nil => exact absurd hhead (by simp)
  | cons c v =>
    obtain rfl : c = '\x1b' := by simpa using hhead
    exact ⟨v, rfl, fun h => hbreak (List.mem_cons_of_mem _ h)⟩

/-- A log call whose text ends the line. -/
theorem logp_eq_logText (line : ℕ) (text : Text) :
    logp line (text ++ ['\n']) = logText [logEntry line text] := by
  simp [logp, logText, logEntry]

/-- A log call whose line is ended by the call behind it. -/
theorem logp_append_logpc (line : ℕ) (text : Text) :
    logp line text ++ logpc ['\n'] = logText [logEntry line text ++ (resetColor ++ drrColor)] := by
  simp [logp, logpc, logText, logEntry]

/-- A predicate of lines that does not tell an entry from its line. -/
def SeesEntries (q : Text → Bool) : Prop :=
  q resetColor = false ∧
    ∀ before ∈ [[], resetColor], ∀ w, IsEntry w → q (before ++ w ++ ['\n']) = q w

/-- What `f` reads of the lines that `q` sees, it reads of their entries. -/
theorem read_lines_logText {α : Type*} {q : Text → Bool} (hq : SeesEntries q) {f : Text → α}
    (hf : ∀ w, IsEntry w → f (resetColor ++ w ++ ['\n']) = f (w ++ ['\n'])) {ws : List Text}
    (hws : ∀ w ∈ ws, IsEntry w) : ((Text.lines (logText ws)).filter q).map f =
      (ws.filter q).map fun w => f (w ++ ['\n']) := by
  obtain ⟨hreset, hentry⟩ := hq
  have hall : ∀ before ∈ [[], resetColor],
      ((Text.lines (before ++ logText ws)).filter q).map f =
        (ws.filter q).map fun w => f (w ++ ['\n']) := by
    induction ws with
    | nil =>
      intro before hbefore
      simp only [List.mem_cons, List.not_mem_nil, or_false] at hbefore
      rcases hbefore with rfl | rfl
      · rfl
      · change ([resetColor].filter q).map f = []
        rw [List.filter_singleton, hreset]
        rfl
    | cons w ws ih =>
      intro before hbefore
      have hw := hws w List.mem_cons_self
      have hseen := hentry before hbefore w hw
      have hread : f (before ++ w ++ ['\n']) = f (w ++ ['\n']) := by
        simp only [List.mem_cons, List.not_mem_nil, or_false] at hbefore
        rcases hbefore with rfl | rfl
        · rfl
        · exact hf w hw
      have hline : '\n' ∉ before ++ w := by
        simp only [List.mem_cons, List.not_mem_nil, or_false] at hbefore
        rcases hbefore with rfl | rfl
        · exact hw.2
        · simpa [resetColor] using hw.2
      have htext : before ++ logText (w :: ws) =
          (before ++ w) ++ '\n' :: (resetColor ++ logText ws) := by
        simp [logText]
      have hrest := ih (fun w hw => hws w (List.mem_cons_of_mem _ hw)) resetColor (by simp)
      rw [htext, Text.lines_append_newline hline, List.filter_cons, List.filter_cons, hseen]
      split
      · rw [List.map_cons, List.map_cons, hread, hrest]
      · exact hrest
  exact hall [] (by simp)

theorem countP_lines_logText {q : Text → Bool} (hq : SeesEntries q) {ws : List Text}
    (hws : ∀ w ∈ ws, IsEntry w) : (Text.lines (logText ws)).countP q = ws.countP q := by
  have hread := congrArg List.length
    (read_lines_logText hq (f := fun _ => ()) (fun _ _ => rfl) hws)
  rw [List.length_map, List.length_map] at hread
  rw [List.countP_eq_length_filter, hread, List.countP_eq_length_filter]

/-- A word without a control character is found in a line exactly if it is in its entry. -/
theorem seesEntries_contains {sub : Text} (hesc : '\x1b' ∉ sub) (hbreak : '\n' ∉ sub)
    (hne : sub ≠ []) (hreset : Text.contains sub resetColor = false) :
    SeesEntries (Text.contains sub) := by
  have hnil : Text.contains sub [] = false := by
    cases sub with
    | nil => exact absurd rfl hne
    | cons c sub => rfl
  refine ⟨hreset, fun before hbefore w hw => ?_⟩
  obtain ⟨v, rfl, hv⟩ := hw.exists_cons
  have hempty : Text.contains sub before = false := by
    simp only [List.mem_cons, List.not_mem_nil, or_false] at hbefore
    rcases hbefore with rfl | rfl
    · exact hnil
    · exact hreset
  have hentry := Text.contains_append_cons_of_notMem hesc hne [] v
  rw [List.nil_append, hnil, Bool.false_or] at hentry
  rw [List.append_assoc, List.cons_append, Text.contains_append_cons_of_notMem hesc hne, hempty,
    Text.contains_append_cons_of_notMem hbreak hne, hnil, Bool.or_false, Bool.false_or, hentry]

/-- Two words that are looked for in the same line. -/
theorem SeesEntries.and {q q' : Text → Bool} (h : SeesEntries q) (h' : SeesEntries q')
    (f : Bool → Bool) : SeesEntries fun l => q l && f (q' l) := by
  refine ⟨?_, fun before hbefore w hw => ?_⟩
  · change (q resetColor && f (q' resetColor)) = false
    rw [h.1, Bool.false_and]
  · change (q _ && f (q' _)) = _
    rw [h.2 before hbefore w hw, h'.2 before hbefore w hw]

theorem contains_logEntry {sub text : Text} (line : ℕ) (h : Text.contains sub text = true) :
    Text.contains sub (logEntry line text) = true := Text.contains_append_right _ h

end ImsiCatcher

import ImsiCatcher.BaseStation
import ImsiCatcher.Iteration
import ImsiCatcher.Regex

/-!
# The parser of the scanner's output

`ScanThread.run`. The output of the process is the list of its lines; behind its end
`readline` returns the empty string. The parser reads the fifteen lines behind a head line,
whatever they are.
-/

namespace ImsiCatcher

/-- `label\s(value)`. -/
def fieldRegex (label : String) (value : Regex) : Regex :=
  .seq (.lit label.toList) (.seq (.chars Text.isSpace) (.group 1 value))

def fieldMatch (label : String) (value : Regex) (line : Text) : Option Text :=
  (Regex.search (fieldRegex label value) line).bind (·.groupText 1)

/-- A field that is kept as text. -/
def textField (label : String) (value : Regex) (line default : Text) : Text :=
  (fieldMatch label value line).getD default

/-- A field that goes through `int`; nothing where that raises an exception. -/
def intField (label : String) (value : Regex) (line : Text) (default : ℤ) : Option ℤ :=
  match fieldMatch label value line with
  | some v => Text.toInt v
  | none => some default

/-- A frame, split at its blanks. -/
def frameField (label : String) (line : Text) (default : List Text) : List Text :=
  ((fieldMatch label (.plus (.chars Text.isDot)) line).map (Text.split ' ')).getD default

/-- `\s((\d+)\s)*`. -/
def neighboursRegex : Regex :=
  .seq (.chars Text.isSpace)
    (.star (.group 1 (.seq (.group 2 (.plus (.chars Char.isDigit))) (.chars Text.isSpace))))

def neighboursField (line : Text) (default : List ℤ) : Option (List ℤ) :=
  match Regex.search neighboursRegex line with
  | some m => (Text.split ' ' (Text.strip m.text)).mapM Text.toInt
  | none => some default

/-- The record that is made of the lines behind a head line; nothing where an exception is
raised. -/
def parseStation (line : ℕ → Text) : Option Sighting := do
  let b : BaseStationInformation := {}
  let arfcn ← intField "ARFCN:" (.plus (.chars Char.isDigit)) (line 2) b.arfcn
  let cell ← intField "Cell ID:" (.plus (.chars Char.isDigit)) (line 3) b.cell
  let lac ← intField "LAC:" (.plus (.chars Char.isDigit)) (line 4) b.lac
  let rxlev ← intField "rxlev:" (.seq (.chars Text.isDot) (.plus (.chars Char.isDigit))) (line 6)
    b.rxlev
  let neighbours ← neighboursField (line 7) b.neighbours
  return ⟨{ b with
    country := textField "Country:" (.plus (.chars Text.isWord)) (line 0) b.country
    provider := textField "Provider:" (.plus (.chars Text.isDot)) (line 1) b.provider
    arfcn := arfcn
    cell := cell
    lac := lac
    bsic := textField "BSIC:" (.seq (.plus (.chars Char.isDigit))
      (.seq (.lit [',']) (.plus (.chars Char.isDigit)))) (line 5) b.bsic
    rxlev := rxlev
    neighbours := neighbours
    systemInfoT1 := frameField "SI1:" (line 8) b.systemInfoT1
    systemInfoT3 := frameField "SI3:" (line 9) b.systemInfoT3
    systemInfoT4 := frameField "SI4:" (line 10) b.systemInfoT4
    systemInfoT2 := frameField "SI2:" (line 11) b.systemInfoT2
    systemInfoT2ter := frameField "SI2ter:" (line 12) b.systemInfoT2ter
    systemInfoT2bis := frameField "SI2bis:" (line 13) b.systemInfoT2bis }, rfl, rfl⟩

/-- The thread: what is left of the output, the records that were handed to the callback,
and whether an exception has ended it. -/
structure ScanThread where
  stdout : List Text
  found : List Sighting := []
  raised : Bool := false

namespace ScanThread

/-- One round of the loop. -/
def step (t : ScanThread) : ScanThread :=
  if t.raised then t
  else match t.stdout with
    | [] => t
    | line :: rest =>
      if line ≠ [] ∧ (Regex.search (.lit "SysInfo".toList) line).isSome then
        match parseStation fun i => rest.getD i [] with
        | some sighting => { t with stdout := rest.drop 15, found := t.found ++ [sighting] }
        | none => { t with stdout := rest, raised := true }
      else { t with stdout := rest }

def run (n : ℕ) (t : ScanThread) : ScanThread := step^[n] t

/-- The thread comes to an end in `r` within as many rounds as there are lines. -/
def Ends (t r : ScanThread) : Prop := Iteration.RestsIn step t.stdout.length t r

theorem Ends.run_eq {t r : ScanThread} (h : Ends t r) {n : ℕ} (hn : t.stdout.length ≤ n) :
    run n t = r := Iteration.RestsIn.iterate_eq h hn

theorem Ends.of_step {t t' r : ScanThread} (hstep : step t = t')
    (hlen : t'.stdout.length < t.stdout.length) (h : Ends t' r) : Ends t r := by
  have hrun : step^[1] t = t' := hstep
  exact (Iteration.RestsIn.of_iterate hrun h).mono (by omega)

theorem ends_nil (found : List Sighting) : Ends ⟨[], found, false⟩ ⟨[], found, false⟩ :=
  Iteration.RestsIn.of_fixed rfl

/-- Lines that do not announce a record are passed over. -/
theorem Ends.skip {ls : List Text} (hls : ∀ l ∈ ls, Text.contains "SysInfo".toList l = false)
    {rest : List Text} {found : List Sighting} {r : ScanThread} (h : Ends ⟨rest, found, false⟩ r) :
    Ends ⟨ls ++ rest, found, false⟩ r := by
  induction ls with
  | nil => exact h
  | cons l ls ih =>
    have hl := hls l List.mem_cons_self
    have hstep : step ⟨l :: (ls ++ rest), found, false⟩ = ⟨ls ++ rest, found, false⟩ := by
      unfold step
      simp only [Regex.isSome_search_lit, hl, Bool.false_eq_true, and_false, if_false]
    exact Ends.of_step hstep (by simp) (ih fun l' hl' => hls l' (List.mem_cons_of_mem _ hl'))

theorem step_head {line : Text} (hline : Text.contains "SysInfo".toList line = true)
    (rest : List Text) (found : List Sighting) :
    step ⟨line :: rest, found, false⟩ =
      match parseStation fun i => rest.getD i [] with
      | some sighting => ⟨rest.drop 15, found ++ [sighting], false⟩
      | none => ⟨rest, found, true⟩ := by
  have hne : line ≠ [] := by
    rintro rfl
    exact absurd hline (by decide)
  unfold step
  simp only [Regex.isSome_search_lit, hline, hne, ne_eq, not_false_eq_true, and_self, if_true,
    Bool.false_eq_true, if_false]

/-- A record whose lines can be parsed is handed over, and its lines are passed over. -/
theorem Ends.record {line : Text} (hline : Text.contains "SysInfo".toList line = true)
    {rest : List Text} {found : List Sighting} {sighting : Sighting} {r : ScanThread}
    (hparse : parseStation (fun i => rest.getD i []) = some sighting)
    (h : Ends ⟨rest.drop 15, found ++ [sighting], false⟩ r) :
    Ends ⟨line :: rest, found, false⟩ r := by
  have hstep := step_head hline rest found
  rw [hparse] at hstep
  refine Ends.of_step hstep ?_ h
  rw [List.length_drop, List.length_cons]
  omega

/-- A record whose lines raise an exception ends the thread. -/
theorem ends_raised {line : Text} (hline : Text.contains "SysInfo".toList line = true)
    {rest : List Text} {found : List Sighting}
    (hparse : parseStation (fun i => rest.getD i []) = none) :
    Ends ⟨line :: rest, found, false⟩ ⟨rest, found, true⟩ := by
  have hstep := step_head hline rest found
  rw [hparse] at hstep
  have hrest : Ends ⟨rest, found, true⟩ ⟨rest, found, true⟩ :=
    (Iteration.RestsIn.of_fixed rfl).mono (Nat.zero_le _)
  exact Ends.of_step hstep (by simp) hrest

theorem parsed_of_mem_step {t : ScanThread} {sighting : Sighting}
    (h : sighting ∈ (step t).found) :
    sighting ∈ t.found ∨ ∃ line, parseStation line = some sighting := by
  unfold step at h
  split at h
  · exact Or.inl h
  split at h
  · exact Or.inl h
  split at h
  · split at h
    · rename_i parsed hparse
      rcases List.mem_append.1 h with h | h
      · exact Or.inl h
      · rw [List.mem_singleton] at h
        exact Or.inr ⟨_, h ▸ hparse⟩
    · exact Or.inl h
  · exact Or.inl h

/-- Each record that was handed over was parsed from some lines. -/
theorem parsed_of_mem_run {n : ℕ} {stdout : List Text} {sighting : Sighting}
    (h : sighting ∈ (run n ⟨stdout, [], false⟩).found) :
    ∃ line, parseStation line = some sighting := by
  unfold run at h
  induction n with
  | zero => exact absurd h List.not_mem_nil
  | succ n ih =>
    rw [Function.iterate_succ_apply'] at h
    exact (parsed_of_mem_step h).elim ih id

end ScanThread
end ImsiCatcher

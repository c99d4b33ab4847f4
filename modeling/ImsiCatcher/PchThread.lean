import ImsiCatcher.BaseStation
import ImsiCatcher.Iteration
import ImsiCatcher.Regex
import Mathlib.Data.Nat.Count

/-!
# The thread of a PCH scan

`PCHThread.run` as a machine of its own steps. What the thread reads of its surroundings is
fixed beforehand: for each round of the inner loop the seconds of the clock and the line of
the process, for each look at the termination flag its value. The processes that are started
and killed are left out; the lines are those of the process that runs at the time.
-/

namespace ImsiCatcher

/-! ### What a line counts for -/

/-- `M\((.*)\)`. -/
def tmsiRegex : Regex :=
  .seq (.lit "M(".toList) (.seq (.group 1 (.star (.chars Text.isDot))) (.lit ")".toList))

def countTmsi (tmsi : Text) : List (Text × ℕ) → List (Text × ℕ)
  | [] => [(tmsi, 1)]
  | (key, n) :: dict => if key = tmsi then (key, n + 1) :: dict else (key, n) :: countTmsi tmsi dict

structure PchCounts where
  pagesFound : ℕ := 0
  iaNonHopFound : ℕ := 0
  iaHopFund : ℕ := 0
  tmsiDict : List (Text × ℕ) := []
  deriving DecidableEq

namespace PchCounts

def countPaging (c : PchCounts) (line : Text) : PchCounts :=
  if Text.contains "Paging".toList line then
    { c with
      pagesFound := c.pagesFound + 1
      tmsiDict := match (Regex.search tmsiRegex line).bind (·.groupText 1) with
        | some tmsi => countTmsi tmsi c.tmsiDict
        | none => c.tmsiDict }
  else c

def countAssignment (c : PchCounts) (line : Text) : PchCounts :=
  if Text.contains "IMM".toList line then
    if Text.contains "HOP".toList line then { c with iaHopFund := c.iaHopFund + 1 }
    else { c with iaNonHopFound := c.iaNonHopFound + 1 }
  else c

def read (c : PchCounts) (line : Text) : PchCounts := (c.countPaging line).countAssignment line

def result (c : PchCounts) : PchResult := ⟨c.pagesFound, c.iaHopFund, c.iaNonHopFound⟩

end PchCounts

def isSyncFailure (line : Text) : Bool := Text.contains "FBSB RESP: result=255".toList line

/-! ### The loops -/

/-- What a round of the inner loop reads; the line is empty where the poll reports nothing or
the output has ended. -/
structure PchReading where
  seconds : ℕ
  line : Text

/-- The arguments of the thread, `PCH_retries`, and what the thread will read. -/
structure PchScan where
  arfcn : ℤ
  timeout : ℕ
  retries : ℕ
  startSeconds : ℕ
  reading : ℕ → PchReading
  threadBreak : ℕ → Bool

inductive PchPlace where
  | outerLoop
  | innerLoop
  | behindInner
  | behindOuter
  | ended
  deriving DecidableEq

/-- The variables of `run`, how often the clock and the flag were read, and the calls of the
callback. `pch_failed` is nothing until it is assigned; `raised` says that it was read so. -/
structure PchThread where
  place : PchPlace
  pchRetries : ℕ
  scanSeconds : ℕ
  retry : Bool
  pchFailed : Option Bool
  counts : PchCounts
  readings : ℕ
  looks : ℕ
  calls : List (ℤ × PchResult × Bool)
  raised : Bool

namespace PchScan
variable (w : PchScan)

def start : PchThread where
  place := .outerLoop
  pchRetries := w.retries
  scanSeconds := w.startSeconds
  retry := false
  pchFailed := none
  counts := {}
  readings := 0
  looks := 0
  calls := []
  raised := false

def read (t : PchThread) : PchThread :=
  let r := w.reading t.readings
  let t := { t with
    readings := t.readings + 1
    scanSeconds := r.seconds
    pchFailed := some false
    counts := if r.line ≠ [] then t.counts.read r.line else t.counts }
  if r.line ≠ [] ∧ isSyncFailure r.line then
    if 0 < t.pchRetries then { t with retry := true, place := .behindInner }
    else { t with pchFailed := some true, place := .behindInner }
  else t

def step (t : PchThread) : PchThread :=
  let looked := { t with looks := t.looks + 1 }
  match t.place with
  | .outerLoop =>
    if w.threadBreak t.looks then { looked with place := .behindOuter }
    else { looked with place := .innerLoop, retry := false }
  | .innerLoop =>
    if 0 < t.pchRetries ∧ t.scanSeconds < w.timeout then
      if w.threadBreak t.looks then { looked with place := .behindInner } else w.read looked
    else { t with place := .behindInner }
  | .behindInner =>
    if t.retry then { t with pchRetries := t.pchRetries - 1, place := .outerLoop }
    else { t with place := .behindOuter }
  | .behindOuter =>
    if w.threadBreak t.looks then { looked with place := .ended }
    else match t.pchFailed with
      | some failed =>
        { looked with calls := t.calls ++ [(w.arfcn, t.counts.result, failed)], place := .ended }
      | none => { looked with raised := true, place := .ended }
  | .ended => t

def run (n : ℕ) : PchThread := w.step^[n] w.start

/-! ### The thread by the number of its readings -/

def failures (k : ℕ) : ℕ := Nat.count (fun i => isSyncFailure (w.reading i).line = true) k

/-- The clock as the thread knows it after `k` readings. -/
def scanSeconds : ℕ → ℕ
  | 0 => w.startSeconds
  | k + 1 => (w.reading k).seconds

def counts : ℕ → PchCounts
  | 0 => {}
  | k + 1 => if (w.reading k).line ≠ [] then (counts k).read (w.reading k).line else counts k

/-- The inner loop goes on after `k` readings. -/
def GoesOn (k : ℕ) : Prop := w.failures k < w.retries ∧ w.scanSeconds k < w.timeout

instance (k : ℕ) : Decidable (w.GoesOn k) := inferInstanceAs (Decidable (_ ∧ _))

def waiting (k looks : ℕ) : PchThread where
  place := .innerLoop
  pchRetries := w.retries - w.failures k
  scanSeconds := w.scanSeconds k
  retry := false
  pchFailed := if k = 0 then none else some false
  counts := w.counts k
  readings := k
  looks := looks
  calls := []
  raised := false

def left (k looks : ℕ) : PchThread :=
  { w.waiting k looks with
    place := .ended
    calls := if k = 0 then [] else [(w.arfcn, (w.counts k).result, false)]
    raised := k = 0 }

/-- The thread behind the inner loop, where the last of `k + 1` lines ended an attempt. -/
def retrying (k looks : ℕ) : PchThread :=
  { w.waiting (k + 1) looks with
    place := .behindInner
    pchRetries := w.retries - w.failures k
    retry := true }

theorem failures_succ_of_failure {k : ℕ} (h : isSyncFailure (w.reading k).line = true) :
    w.failures (k + 1) = w.failures k + 1 := by
  unfold failures
  rw [Nat.count_succ, if_pos h]

theorem failures_succ_of_not {k : ℕ} (h : isSyncFailure (w.reading k).line = false) :
    w.failures (k + 1) = w.failures k := by
  unfold failures
  rw [Nat.count_succ, if_neg (by rw [h]; decide), Nat.add_zero]

theorem failures_mono {j k : ℕ} (h : j ≤ k) : w.failures j ≤ w.failures k := Nat.count_monotone _ h

theorem line_ne_nil_of_failure {line : Text} (h : isSyncFailure line = true) : line ≠ [] := by
  rintro rfl
  exact absurd h (by decide)

theorem read_of_not {k : ℕ} (h : isSyncFailure (w.reading k).line = false) (looks : ℕ) :
    w.read (w.waiting k looks) = w.waiting (k + 1) looks := by
  by_cases hline : (w.reading k).line = []
  · simp [read, waiting, hline, w.failures_succ_of_not h, scanSeconds, counts]
  · simp [read, waiting, h, hline, w.failures_succ_of_not h, scanSeconds, counts]

/-- A line that ends an attempt leaves the inner loop, where another attempt is allowed. -/
theorem read_of_failure {k : ℕ} (h : isSyncFailure (w.reading k).line = true)
    (hleft : 0 < w.retries - w.failures k) (looks : ℕ) :
    w.read (w.waiting k looks) = w.retrying k looks := by
  have hne := line_ne_nil_of_failure h
  simp [read, retrying, waiting, h, hne, scanSeconds, counts, hleft]

section unbroken
variable (hbreak : ∀ i, w.threadBreak i = false)
include hbreak

theorem step_start : w.step w.start = w.waiting 0 1 := by
  simp [step, start, waiting, hbreak, failures, scanSeconds, counts]

theorem step_waiting {k : ℕ} (hgoes : w.GoesOn k) (looks : ℕ) :
    w.step (w.waiting k looks) = w.read (w.waiting k (looks + 1)) := by
  obtain ⟨hretries, hseconds⟩ := hgoes
  have hleft : 0 < w.retries - w.failures k := by omega
  unfold step
  simp only [waiting, hleft, hseconds, hbreak, and_self, if_true, Bool.false_eq_true, if_false]

/-- A new attempt goes through the head of the outer loop. -/
theorem iterate_retrying {k : ℕ} (h : isSyncFailure (w.reading k).line = true) (looks : ℕ) :
    w.step^[2] (w.retrying k looks) = w.waiting (k + 1) (looks + 1) := by
  have hfailures := w.failures_succ_of_failure h
  have hretries : w.retries - w.failures k - 1 = w.retries - w.failures (k + 1) := by omega
  rw [Function.iterate_succ_apply, Function.iterate_one]
  simp [step, retrying, hbreak, waiting, hretries]

/-- One reading brings the thread back to the head of the inner loop. -/
theorem iterate_waiting {k : ℕ} (hgoes : w.GoesOn k) (looks : ℕ) :
    ∃ j looks', 0 < j ∧ w.step^[j] (w.waiting k looks) = w.waiting (k + 1) looks' := by
  have hstep := w.step_waiting hbreak hgoes looks
  cases h : isSyncFailure (w.reading k).line with
  | false =>
    rw [w.read_of_not h] at hstep
    exact ⟨1, looks + 1, Nat.one_pos, hstep⟩
  | true =>
    have hleft : 0 < w.retries - w.failures k := Nat.sub_pos_of_lt hgoes.1
    rw [w.read_of_failure h hleft] at hstep
    refine ⟨3, looks + 2, by decide, ?_⟩
    rw [Function.iterate_succ_apply, hstep]
    exact w.iterate_retrying hbreak h (looks + 1)

/-- As long as the inner loop goes on, the thread comes to its next round. -/
theorem exists_run_eq_waiting {k : ℕ} (hgoes : ∀ i < k, w.GoesOn i) :
    ∃ n looks, k ≤ n ∧ w.run n = w.waiting k looks := by
  induction k with
  | zero => exact ⟨1, 1, Nat.zero_le _, w.step_start hbreak⟩
  | succ k ih =>
    obtain ⟨n, looks, hkn, hrun⟩ := ih fun i hi => hgoes i (Nat.lt_succ_of_lt hi)
    obtain ⟨j, looks', hj, hiterate⟩ :=
      w.iterate_waiting hbreak (hgoes k (Nat.lt_succ_self k)) looks
    refine ⟨j + n, looks', by omega, ?_⟩
    unfold run at hrun ⊢
    rw [Function.iterate_add_apply, hrun, hiterate]

/-- Where the inner loop does not go on, the thread comes to its end. -/
theorem restsIn_left {k : ℕ} (hstops : ¬ w.GoesOn k) (looks : ℕ) :
    Iteration.RestsIn w.step 3 (w.waiting k looks) (w.left k (looks + 1)) := by
  have hcond : ¬ (0 < w.retries - w.failures k ∧ w.scanSeconds k < w.timeout) := by
    rintro ⟨hretries, hseconds⟩
    exact hstops ⟨by omega, hseconds⟩
  refine ⟨rfl, 3, le_rfl, ?_⟩
  change w.step (w.step (w.step (w.waiting k looks))) = _
  have hinner : w.step (w.waiting k looks) =
      { w.waiting k looks with place := .behindInner } := by
    unfold step
    simp only [waiting, hcond, if_false]
  have houter : w.step { w.waiting k looks with place := .behindInner } =
      { w.waiting k looks with place := .behindOuter } := rfl
  rw [hinner, houter]
  by_cases hk : k = 0
  · simp [step, waiting, left, hbreak, hk]
  · simp [step, waiting, left, hbreak, hk]

/-- The thread ends where the inner loop is first left for good. -/
theorem run_eventually_left {k : ℕ} (hgoes : ∀ i < k, w.GoesOn i) (hstops : ¬ w.GoesOn k) :
    ∃ n₀ looks, ∀ n, n₀ ≤ n → w.run n = w.left k looks := by
  obtain ⟨m, looks, _, hrun⟩ := w.exists_run_eq_waiting hbreak hgoes
  exact ⟨m + 3, looks + 1, fun n hn =>
    ((w.restsIn_left hbreak hstops looks).of_iterate hrun).iterate_eq hn⟩

end unbroken
end PchScan
end ImsiCatcher

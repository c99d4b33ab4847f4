import ImsiCatcher.PchThread

/-!
# The result of one scan

A scan that stays synchronised until the clock reaches the timeout calls the callback with the
counts of the lines it has read.
-/

namespace ImsiCatcher

/-! ### Counting line by line -/

namespace PchCounts

/-- What each line adds to a number that is carried along is counted. -/
theorem count_foldl {f : PchCounts → Text → PchCounts} {g : PchCounts → ℕ} {q : Text → Bool}
    (h : ∀ c l, g (f c l) = g c + if q l then 1 else 0) (ls : List Text) (c : PchCounts) :
    g (ls.foldl f c) = g c + ls.countP q := by
  induction ls generalizing c with
  | nil => rfl
  | cons l ls ih =>
    rw [List.foldl_cons, ih, h, List.countP_cons]
    omega

def isPaging (line : Text) : Bool := Text.contains "Paging".toList line

def isHopping (line : Text) : Bool :=
  Text.contains "IMM".toList line && Text.contains "HOP".toList line

def isNonHopping (line : Text) : Bool :=
  Text.contains "IMM".toList line && !Text.contains "HOP".toList line

theorem pagesFound_countAssignment (c : PchCounts) (line : Text) :
    (c.countAssignment line).pagesFound = c.pagesFound := by
  unfold countAssignment
  split
  · split <;> rfl
  · rfl

theorem pagesFound_read (c : PchCounts) (line : Text) :
    (c.read line).pagesFound = c.pagesFound + if isPaging line then 1 else 0 := by
  unfold read
  rw [pagesFound_countAssignment]
  unfold countPaging isPaging
  split <;> rfl

theorem assignments_countPaging (c : PchCounts) (line : Text) :
    (c.countPaging line).iaHopFund = c.iaHopFund ∧
      (c.countPaging line).iaNonHopFound = c.iaNonHopFound := by
  unfold countPaging
  split <;> exact ⟨rfl, rfl⟩

theorem iaHopFund_read (c : PchCounts) (line : Text) :
    (c.read line).iaHopFund = c.iaHopFund + if isHopping line then 1 else 0 := by
  rw [← (assignments_countPaging c line).1]
  unfold read countAssignment isHopping
  cases Text.contains "IMM".toList line <;> cases Text.contains "HOP".toList line <;> rfl

theorem iaNonHopFound_read (c : PchCounts) (line : Text) :
    (c.read line).iaNonHopFound = c.iaNonHopFound + if isNonHopping line then 1 else 0 := by
  rw [← (assignments_countPaging c line).2]
  unfold read countAssignment isNonHopping
  cases Text.contains "IMM".toList line <;> cases Text.contains "HOP".toList line <;> rfl

/-- The result that is made of the lines. -/
theorem result_foldl (ls : List Text) :
    (ls.foldl read {}).result =
      ⟨ls.countP isPaging, ls.countP isHopping, ls.countP isNonHopping⟩ := by
  have hpages := count_foldl pagesFound_read ls {}
  have hhop := count_foldl iaHopFund_read ls {}
  have hnon := count_foldl iaNonHopFound_read ls {}
  simp only [Nat.zero_add] at hpages hhop hnon
  unfold result
  rw [hpages, hhop, hnon]

end PchCounts

/-! ### A scan without a failed attempt -/

namespace PchScan
variable (w : PchScan)

def linesRead (k : ℕ) : List Text :=
  ((List.range k).map fun i => (w.reading i).line).filter (· ≠ [])

/-- The thread is not terminated and reads the lines `ls` until the clock reaches the timeout,
and none of them ends the attempt. -/
structure OneScan (ls : List Text) : Prop where
  attempts : 0 < w.retries
  started : w.startSeconds < w.timeout
  unbroken : ∀ i, w.threadBreak i = false
  reads : ∃ k, (∀ i < k, (w.reading i).seconds < w.timeout) ∧
    w.timeout ≤ (w.reading k).seconds ∧ w.linesRead (k + 1) = ls
  synchronised : ∀ l ∈ ls, isSyncFailure l = false

theorem linesRead_succ (k : ℕ) :
    w.linesRead (k + 1) =
      w.linesRead k ++ if (w.reading k).line ≠ [] then [(w.reading k).line] else [] := by
  unfold linesRead
  rw [List.range_succ, List.map_append, List.filter_append]
  congr 1
  by_cases h : (w.reading k).line = [] <;> simp [h]

theorem counts_eq_foldl (k : ℕ) : w.counts k = (w.linesRead k).foldl PchCounts.read {} := by
  induction k with
  | zero => rfl
  | succ k ih =>
    rw [linesRead_succ, List.foldl_append, ← ih, counts]
    by_cases h : (w.reading k).line = [] <;> simp [h]

theorem failures_eq_zero {k : ℕ} (h : ∀ l ∈ w.linesRead k, isSyncFailure l = false) :
    w.failures k = 0 := by
  induction k with
  | zero => rfl
  | succ k ih =>
    rw [linesRead_succ] at h
    have hline : isSyncFailure (w.reading k).line = false := by
      by_cases hnil : (w.reading k).line = []
      · rw [hnil]
        rfl
      · exact h _ (by simp [hnil])
    rw [w.failures_succ_of_not hline]
    exact ih fun l hl => h l (List.mem_append_left _ hl)

theorem linesRead_subset {j k : ℕ} (h : j ≤ k) : w.linesRead j ⊆ w.linesRead k := by
  unfold linesRead
  exact List.filter_subset _ (List.map_subset _ (List.range_subset.2 h))

/-- The callback is called once, with the counts of the lines. -/
theorem OneScan.calls_eq {w : PchScan} {ls : List Text} (h : w.OneScan ls) :
    ∃ n₀, ∀ n, n₀ ≤ n →
      (w.run n).calls = [(w.arfcn, (ls.foldl PchCounts.read {}).result, false)] := by
  obtain ⟨hattempts, hstarted, hunbroken, ⟨k, hbelow, hreached, hlines⟩, hsync⟩ := h
  have hfailures : ∀ j ≤ k + 1, w.failures j = 0 := by
    intro j hj
    apply w.failures_eq_zero
    intro l hl
    apply hsync
    rw [← hlines]
    exact w.linesRead_subset hj hl
  have hgoes : ∀ i < k + 1, w.GoesOn i := by
    intro i hi
    refine ⟨by rw [hfailures i (Nat.le_of_lt hi)]; exact hattempts, ?_⟩
    cases i with
    | zero => exact hstarted
    | succ i => exact hbelow i (by omega)
  have hstops : ¬ w.GoesOn (k + 1) := fun h => absurd h.2 (Nat.not_lt.2 hreached)
  obtain ⟨n₀, looks, hleft⟩ := w.run_eventually_left hunbroken hgoes hstops
  refine ⟨n₀, fun n hn => ?_⟩
  rw [hleft n hn, ← hlines, ← counts_eq_foldl]
  rfl

/-- The callback is called once, with a result of which `P` is true. -/
def Results (P : PchResult → Prop) : Prop :=
  ∃ n₀ result failed, ∀ n, n₀ ≤ n → (w.run n).calls = [(w.arfcn, result, failed)] ∧ P result

theorem OneScan.results_iff {w : PchScan} {ls : List Text} (h : w.OneScan ls)
    (P : PchResult → Prop) :
    w.Results P ↔ P ⟨ls.countP PchCounts.isPaging, ls.countP PchCounts.isHopping,
      ls.countP PchCounts.isNonHopping⟩ := by
  obtain ⟨n₀, hcalls⟩ := h.calls_eq
  rw [PchCounts.result_foldl] at hcalls
  constructor
  · rintro ⟨n₁, result, failed, hresults⟩
    obtain ⟨hcall, hP⟩ := hresults (max n₀ n₁) (le_max_right _ _)
    rw [hcalls _ (le_max_left _ _)] at hcall
    have hpair := (List.cons.inj hcall).1
    rw [Prod.mk.injEq, Prod.mk.injEq] at hpair
    rw [hpair.2.1]
    exact hP
  · intro hP
    exact ⟨n₀, _, _, fun n hn => ⟨hcalls n hn, hP⟩⟩

/-- A scan of ARFCN 7 in which `lines` are read before the clock reaches the timeout. -/
def ofLines (retries : ℕ) (lines : List Text) : PchScan where
  arfcn := 7
  timeout := 10
  retries := retries
  startSeconds := 0
  reading := fun i => ⟨if i < lines.length then 0 else 10, lines.getD i []⟩
  threadBreak := fun _ => false

theorem linesRead_ofLines (retries : ℕ) {ls : List Text} (hne : [] ∉ ls) :
    (ofLines retries ls).linesRead (ls.length + 1) = ls := by
  have hbefore : (List.range ls.length).map (fun i => ls.getD i []) = ls :=
    List.ext_getElem (by simp) fun i _ hi => by simp [hi]
  have hbehind : ls.getD ls.length [] = [] := by simp
  have hfilter : ls.filter (· ≠ []) = ls := List.filter_eq_self.2 fun l hl => by
    rw [decide_eq_true_eq]
    rintro rfl
    exact hne hl
  rw [linesRead_succ]
  change ((List.range ls.length).map fun i => ls.getD i []).filter (· ≠ []) ++
    (if ls.getD ls.length [] ≠ [] then [ls.getD ls.length []] else []) = ls
  rw [hbefore, hbehind, hfilter]
  simp

theorem oneScan_ofLines {ls : List Text} (hne : [] ∉ ls)
    (hsync : ∀ l ∈ ls, isSyncFailure l = false) : (ofLines 5 ls).OneScan ls where
  attempts := Nat.succ_pos 4
  started := Nat.succ_pos 9
  unbroken := fun _ => rfl
  reads := by
    refine ⟨ls.length, fun i hi => ?_, ?_, linesRead_ofLines 5 hne⟩
    · simp [ofLines, hi]
    · simp [ofLines]
  synchronised := hsync

end PchScan
end ImsiCatcher

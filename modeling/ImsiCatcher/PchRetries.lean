import ImsiCatcher.PchReadings

/-!
# What a PCH scan reports about its attempts

An attempt ends with the line that reports a failed synchronisation, and `PCH_retries` of them
are allowed. The branch that would report a failed scan stands inside the inner loop, where
another attempt is always allowed, so it is never taken.
-/

namespace ImsiCatcher
namespace PchScan
variable (w : PchScan)

/-- The callback is called once, and told that the scan failed exactly if all the attempts that
are allowed have failed. -/
def Delivers : Prop :=
  ∃ n₀ result failed, ∀ n, n₀ ≤ n →
    (w.run n).calls = [(w.arfcn, result, failed)] ∧
    (failed = true ↔ w.failures (w.run n).readings = w.retries)

theorem failures_succ_le (k : ℕ) : w.failures (k + 1) ≤ w.failures k + 1 := by
  cases h : isSyncFailure (w.reading k).line with
  | false => rw [w.failures_succ_of_not h]; omega
  | true => rw [w.failures_succ_of_failure h]

/-- The inner loop is left for the first time, where it is left at all. -/
theorem exists_first_stop {k : ℕ} (hstops : ¬ w.GoesOn k) :
    ∃ j ≤ k, (∀ i < j, w.GoesOn i) ∧ ¬ w.GoesOn j := by
  have hex : ∃ j, ¬ w.GoesOn j := ⟨k, hstops⟩
  exact ⟨Nat.find hex, Nat.find_min' hex hstops,
    fun i hi => not_not.1 (Nat.find_min hex hi), Nat.find_spec hex⟩

section unbroken
variable (hbreak : ∀ i, w.threadBreak i = false)
include hbreak

theorem not_delivers_of_goesOn (hgoes : ∀ i, w.GoesOn i) : ¬ w.Delivers := by
  rintro ⟨n₀, result, failed, hdelivers⟩
  obtain ⟨n, looks, hn, hrun⟩ := w.exists_run_eq_waiting hbreak (k := n₀) fun i _ => hgoes i
  have hcalls := (hdelivers n hn).1
  rw [hrun] at hcalls
  exact absurd hcalls (by simp [waiting])

/-- A thread that ends delivers exactly if it has read a line and did not run out of attempts. -/
theorem delivers_iff_of_stop {k : ℕ} (hgoes : ∀ i < k, w.GoesOn i) (hstops : ¬ w.GoesOn k) :
    w.Delivers ↔ k ≠ 0 ∧ w.failures k ≠ w.retries := by
  obtain ⟨n₀, looks, hleft⟩ := w.run_eventually_left hbreak hgoes hstops
  constructor
  · rintro ⟨n₁, result, failed, hdelivers⟩
    obtain ⟨hcalls, hfailed⟩ := hdelivers (max n₀ n₁) (le_max_right _ _)
    rw [hleft _ (le_max_left _ _)] at hcalls hfailed
    by_cases hk : k = 0
    · exact absurd hcalls (by simp [left, hk])
    · have hfalse : failed = false := by
        have h : (w.counts k).result = result ∧ failed = false := by
          simpa [left, hk] using hcalls
        exact h.2
      refine ⟨hk, fun hretries => ?_⟩
      have htrue := hfailed.2 hretries
      rw [hfalse] at htrue
      exact absurd htrue (by decide)
  · rintro ⟨hk, hretries⟩
    refine ⟨n₀, (w.counts k).result, false, fun n hn => ?_⟩
    rw [hleft n hn]
    refine ⟨by simp [left, hk], fun h => absurd h (by decide), fun h => ?_⟩
    exact absurd h hretries

/-- A scan delivers what happened exactly if the first reading of the clock is below the
timeout, and the clock reaches it before the attempts run out. -/
theorem delivers_iff :
    w.Delivers ↔ w.startSeconds < w.timeout ∧
      ∃ n, w.timeout ≤ (w.reading n).seconds ∧ w.failures (n + 1) < w.retries := by
  constructor
  · intro hdelivers
    have hstop : ∃ k, ¬ w.GoesOn k := by
      by_contra hgoes
      exact w.not_delivers_of_goesOn hbreak (fun i => not_not.1 fun h => hgoes ⟨i, h⟩) hdelivers
    obtain ⟨k, hk⟩ := hstop
    obtain ⟨j, _, hgoes, hstops⟩ := w.exists_first_stop hk
    obtain ⟨hj, hretries⟩ := (w.delivers_iff_of_stop hbreak hgoes hstops).1 hdelivers
    obtain ⟨n, rfl⟩ := Nat.exists_eq_succ_of_ne_zero hj
    have hstart := (hgoes 0 (Nat.succ_pos n)).2
    have hbelow := (hgoes n (Nat.lt_succ_self n)).1
    have hstep := w.failures_succ_le n
    have hfew : w.failures (n + 1) < w.retries := by
      change w.failures (n + 1) ≠ w.retries at hretries
      omega
    refine ⟨hstart, n, ?_, hfew⟩
    by_contra hseconds
    exact hstops ⟨hfew, Nat.lt_of_not_le hseconds⟩
  · rintro ⟨hstart, n, hseconds, hfew⟩
    have hn : ¬ w.GoesOn (n + 1) := fun h => absurd h.2 (Nat.not_lt.2 hseconds)
    obtain ⟨k, hkn, hgoes, hstops⟩ := w.exists_first_stop hn
    have hfailures : w.failures k < w.retries := lt_of_le_of_lt (w.failures_mono hkn) hfew
    refine (w.delivers_iff_of_stop hbreak hgoes hstops).2 ⟨?_, Nat.ne_of_lt hfailures⟩
    rintro rfl
    exact hstops ⟨hfailures, hstart⟩

end unbroken

def syncFailure : Text := "<000c> l1ctl.c:114 FBSB RESP: result=255\n".toList

theorem delivers_iff_one_retry : (ofLines 2 [syncFailure]).Delivers :=
  (delivers_iff (ofLines 2 [syncFailure]) fun _ => rfl).2 ⟨by decide, 1, by decide, by decide⟩

/-- All attempts fail, and the callback is told of a successful scan. -/
theorem not_delivers_all_failed :
    ¬ (ofLines 5 (List.replicate 5 syncFailure)).Delivers := by
  rw [delivers_iff_of_stop _ (fun _ => rfl) (k := 5) (by decide) (by decide)]
  decide

end PchScan
end ImsiCatcher

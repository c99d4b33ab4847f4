import ImsiCatcher.ChangeRules
import ImsiCatcher.Evidence

/-!
# The two judgements of a PCH scan

The PCH rule compares the pagings of a scan with a threshold that is meant for ten seconds,
and the user mode does so after normalising them by a configured duration of fifteen
seconds. Neither asks how long the scan was. Both are compared with the verdict that the
rate of the scan gives.
-/

namespace ImsiCatcher

/-- The verdict on a scan of `T` seconds by the rate of its pagings. -/
def rateVerdict (settings : RuleSettings) (T : ℚ) (values : PchResult) : RuleResult :=
  if 0 < values.assignmentsNonHopping then .critical
  else if settings.assignmentLimit ≤ values.assignmentsHopping ∧
      settings.pagingsPer10sThreshold ≤ values.pagings * 10 / T then .ok
  else .critical

/-- The PCH rule, after `c` integrated the result, and the user mode of `c'` give the verdict
that the rate gives. -/
structure JudgementsAgree (c c' : Controller) (arfcn : ℤ) (values : PchResult) (T : ℚ) :
    Prop where
  rule : pchRule {} arfcn (c.pchDoneCallback arfcn values false).1.stations =
    some (rateVerdict {} T values)
  user : .setUserImage (some (rateVerdict {} T values)) ∈
    (c'.pchDoneCallback arfcn values false).2

theorem pchRule_integrated {c : Controller} {arfcn : ℤ} (settings : RuleSettings)
    (values : PchResult) (hintegration : c.pchIntegration = true)
    (hlisted : (recordOf arfcn c.stations).isSome) :
    pchRule settings arfcn (c.pchDoneCallback arfcn values false).1.stations =
      some (if 0 < values.assignmentsNonHopping then .critical
        else if settings.pagingsPer10sThreshold ≤ values.pagings ∧
          settings.assignmentLimit ≤ values.assignmentsHopping then .ok
        else .critical) := by
  obtain ⟨item, hitem⟩ := Option.isSome_iff_exists.1 hlisted
  have harfcn : item.arfcn = arfcn := by
    have hfound := List.find?_some hitem
    simpa using hfound
  rw [Controller.pchDoneCallback_stations, if_neg Bool.false_ne_true, pchRule,
    Controller.integratePch]
  dsimp only
  rw [recordOf_map (fun s => by split <;> rfl), hitem]
  simp [harfcn, hintegration]

/-- In user mode a callback sets the image to its own verdict. -/
theorem image_pchDone {c : Controller} (arfcn : ℤ) (values : PchResult)
    (hmode : c.userModeFlag = true) (result : RuleResult) :
    .setUserImage (some result) ∈ (c.pchDoneCallback arfcn values false).2 ↔
      (Controller.userVerdict values).2 = result := by
  rw [eq_comm]
  simp [Controller.pchDoneCallback, Controller.pchSucceeded, Controller.integratePch, hmode,
    Controller.log]

/-! Without a non-hopping assignment each judgement compares the pagings with a number of its
own: 20 for the rule, 30 for the user mode, and twice the duration for the rate. -/

theorem rateVerdict_eq {T : ℚ} (hT : 0 < T) (values : PchResult) :
    rateVerdict {} T values = if 0 < values.assignmentsNonHopping then .critical
      else if 2 * T ≤ values.pagings then .ok else .critical := by
  have hrate : (20 : ℚ) ≤ values.pagings * 10 / T ↔ 2 * T ≤ values.pagings := by
    rw [le_div_iff₀ hT]
    constructor <;> intro h <;> linarith
  simp [rateVerdict, assignmentLimit, pagingsPer10sThreshold, hrate]

theorem userVerdict_eq (values : PchResult) :
    (Controller.userVerdict values).2 = if 0 < values.assignmentsNonHopping then .critical
      else if 30 ≤ values.pagings then .ok else .critical := by
  have hrate : (20 : ℚ) ≤ values.pagings / 15 * 10 ↔ 30 ≤ values.pagings := by
    rw [← Nat.cast_le (α := ℚ)]
    constructor <;> intro h <;> push_cast at * <;> linarith
  simp only [Controller.userVerdict, Controller.returnNormalisedPagings, assignmentLimit,
    pagingsPer10sThreshold, usrTimeout, hrate, Nat.zero_le, true_and]
  split_ifs <;> rfl

theorem pchRule_eq {c : Controller} {arfcn : ℤ} (values : PchResult)
    (hintegration : c.pchIntegration = true) (hlisted : (recordOf arfcn c.stations).isSome) :
    pchRule {} arfcn (c.pchDoneCallback arfcn values false).1.stations =
      some (if 0 < values.assignmentsNonHopping then .critical
        else if 20 ≤ values.pagings then .ok else .critical) := by
  have hrate : (20 : ℚ) ≤ values.pagings ↔ 20 ≤ values.pagings := by
    exact_mod_cast Iff.rfl
  rw [pchRule_integrated {} values hintegration hlisted]
  simp [assignmentLimit, pagingsPer10sThreshold, hrate]

/-- The two judgements give the verdict of the rate just when an assignment without hopping
decides, or the pagings lie on the same side of 20, of 30 and of twice the duration. -/
theorem pch_judgements_agree_iff (c c' : Controller) (arfcn : ℤ) (values : PchResult) (T : ℚ)
    (hT : 0 < T) (hintegration : c.pchIntegration = true)
    (hlisted : (recordOf arfcn c.stations).isSome) (hmode : c'.userModeFlag = true) :
    JudgementsAgree c c' arfcn values T ↔
      0 < values.assignmentsNonHopping ∨
      values.pagings < 20 ∧ (values.pagings : ℚ) < 2 * T ∨
      30 ≤ values.pagings ∧ 2 * T ≤ values.pagings := by
  have hiff : JudgementsAgree c c' arfcn values T ↔
      pchRule {} arfcn (c.pchDoneCallback arfcn values false).1.stations =
          some (rateVerdict {} T values) ∧
        (Controller.userVerdict values).2 = rateVerdict {} T values := by
    rw [← image_pchDone arfcn values hmode]
    exact ⟨fun h => ⟨h.rule, h.user⟩, fun h => ⟨h.1, h.2⟩⟩
  rw [hiff, pchRule_eq values hintegration hlisted, userVerdict_eq, rateVerdict_eq hT]
  by_cases hhop : 0 < values.assignmentsNonHopping
  · simp [hhop]
  rw [if_neg hhop, if_neg hhop, if_neg hhop]
  by_cases hrate : 2 * T ≤ values.pagings
  · have hslow : ¬(values.pagings : ℚ) < 2 * T := not_lt.2 hrate
    rw [if_pos hrate]
    by_cases hthirty : 30 ≤ values.pagings
    · have htwenty : 20 ≤ values.pagings := by omega
      simp [hthirty, htwenty, hrate]
    · simp [hthirty, hhop, hslow]
  · have hslow : (values.pagings : ℚ) < 2 * T := not_le.1 hrate
    rw [if_neg hrate]
    by_cases htwenty : 20 ≤ values.pagings
    · simp [htwenty, hhop, hrate]
    · have hthirty : ¬30 ≤ values.pagings := by omega
      have hfew : values.pagings < 20 := by omega
      simp [htwenty, hthirty, hfew, hslow]

def userModeController : Controller := { stations := [{ arfcn := 7 }], userModeFlag := true }

theorem pch_judgements_agree_fast :
    JudgementsAgree userModeController userModeController 7 ⟨40, 3, 0⟩ 10 :=
  (pch_judgements_agree_iff _ _ 7 ⟨40, 3, 0⟩ 10 (by norm_num) rfl rfl rfl).2
    (Or.inr (Or.inr ⟨by decide, by norm_num⟩))

/-- In ten seconds 25 pagings are enough for the rule and for the rate, and not for the user
mode. -/
theorem pch_judgements_differ : ¬ ∀ (c c' : Controller) (arfcn : ℤ) (values : PchResult) (T : ℚ),
    0 < T → c.pchIntegration = true → (recordOf arfcn c.stations).isSome →
    c'.userModeFlag = true → JudgementsAgree c c' arfcn values T := by
  intro h
  have huser := (h userModeController userModeController 7 ⟨25, 3, 0⟩ 10 (by norm_num) rfl rfl
    rfl).user
  rw [image_pchDone 7 _ rfl, userVerdict_eq, rateVerdict_eq (by norm_num)] at huser
  norm_num at huser
  cases huser

end ImsiCatcher

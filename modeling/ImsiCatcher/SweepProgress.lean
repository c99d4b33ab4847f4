import ImsiCatcher.Exploration
import ImsiCatcher.Handlers
import ImsiCatcher.OrderStatistics

/-!
# The sweep over the power table

The sweep explores the ARFCNs of the power table. Where it synchronises it tunes to the
strongest entry that was measured and not synced, and marks it; otherwise it clears the table
and measures from the first band again. A measurement that comes in later sets levels but
leaves the marks, so between two clearings the marks only grow.
-/

namespace ImsiCatcher

open OrderStatistics Exploration

def clearedTable : ℕ → PmInfo := fun _ => {}

def PmInfo.Open (p : PmInfo) : Prop := p.flagPm ∧ ¬p.flagSync

instance (p : PmInfo) : Decidable p.Open := inferInstanceAs (Decidable (_ ∧ _))

/-- The open entry of an ARFCN reaches the least level, and none of the open ones is stronger. -/
structure Strongest (pm : ℕ → PmInfo) (a : ℕ) : Prop where
  arfcn : a < 1024
  unsynced : (pm a).Open
  level : minRxlev ≤ (pm a).rxlev.toInt
  maximal : ∀ i < 1024, (pm i).Open → (pm i).rxlev.toInt ≤ (pm a).rxlev.toInt

/-- The scan is the loop that keeps the first largest entry, with a number for none. -/
theorem strongestUnsynced_eq (pm : ℕ → PmInfo) : strongestUnsynced pm =
    let best := keepLargest (fun i => (pm i).Open) (fun i => (pm i).rxlev.toInt)
      (List.range 1024) (-128, none)
    (best.1, best.2.getD 0xffff) := by
  let named : ℤ × Option ℕ → ℤ × ℕ := fun best => (best.1, best.2.getD 0xffff)
  have hstep : ∀ best (i : ℕ),
      (if (pm i).flagPm ∧ ¬(pm i).flagSync ∧ (named best).1 < (pm i).rxlev.toInt then
        ((pm i).rxlev.toInt, i) else named best) =
      named (if (pm i).Open ∧ best.1 < (pm i).rxlev.toInt then ((pm i).rxlev.toInt, some i)
        else best) := by
    intro best i
    simp only [PmInfo.Open, and_assoc]
    split <;> rfl
  unfold strongestUnsynced keepLargest
  generalize List.range 1024 = arfcns
  change arfcns.foldl _ (named (-128, none)) = named (arfcns.foldl _ (-128, none))
  exact List.foldl_hom named hstep

theorem strongestUnsynced_cases (pm : ℕ → PmInfo) : (strongestUnsynced pm).2 = 0xffff ∨
    ∃ a < 1024, (pm a).Open ∧ strongestUnsynced pm = ((pm a).rxlev.toInt, a) ∧
      ∀ i < 1024, (pm i).Open → (pm i).rxlev.toInt ≤ (pm a).rxlev.toInt := by
  rw [strongestUnsynced_eq]
  rcases keepLargest_cases (fun i => (pm i).Open) (fun i => (pm i).rxlev.toInt)
    (List.range 1024) (-128, none) with ⟨hnone, -⟩ | ⟨a, ha, hopen, -, hkept, hall⟩
  · refine Or.inl ?_
    rw [hnone]
    rfl
  · refine Or.inr ⟨a, List.mem_range.1 ha, hopen, ?_, fun i hi => hall i (List.mem_range.2 hi)⟩
    rw [hkept]
    rfl

namespace Catcher

structure Tunes (pm : ℕ → PmInfo) (a : ℕ) (r : Catcher × List CatcherOut) : Prop where
  chosen : Strongest pm a
  marked : r.1.pm = fun i => if i = a then { pm i with flagSync := true } else pm i
  state : r.1.state = .sync
  asked : ∃ line, r.2 = [.summary line, .resetReq, .fbsbReq a]

structure Restarts (r : Catcher × List CatcherOut) : Prop where
  cleared : r.1.pm = clearedTable
  index : r.1.pmIndex = 0
  state : r.1.state = .pm
  asked : r.2 = [.readBandRange 0, .summary "Measure from 0 to 124".toList, .resetReq,
    .pmReqRange 0 124]

variable {cfg : CatcherConfig} {env : Surroundings} {c : Catcher}

/-- In front of the first band, `start_pm` measures and does not come back to `start_sync`. -/
theorem startPm_first (sync : Catcher → Catcher × List CatcherOut) (hindex : c.pmIndex = 0) :
    startPm cfg sync c = ({ c with state := .pm },
      [.readBandRange 0, .summary "Measure from 0 to 124".toList, .resetReq,
        .pmReqRange 0 124]) := by
  have hline : "Measure from ".toList ++ Text.decimal 0 ++ " to ".toList ++ Text.decimal 124 =
      "Measure from 0 to 124".toList := by
    decide
  have hband : bandRange cfg 0 = (0, 124) := rfl
  unfold startPm
  dsimp only
  rw [hindex, hband, if_neg (by decide), ← hline]

theorem startPm_restarts (sync : Catcher → Catcher × List CatcherOut)
    (hpm : c.pm = clearedTable) (hindex : c.pmIndex = 0) : Restarts (startPm cfg sync c) := by
  rw [startPm_first sync hindex]
  exact ⟨hpm, hindex, rfl, rfl⟩

/-- `start_sync` makes progress. -/
theorem startSync_progress (cfg : CatcherConfig) (env : Surroundings) (c : Catcher) :
    (∃ a, Tunes c.pm a (c.startSync cfg env)) ∨ Restarts (c.startSync cfg env) := by
  unfold startSync
  dsimp only
  split
  case isTrue => exact Or.inr (startPm_restarts _ rfl rfl)
  case isFalse hgo =>
    obtain ⟨-, hfound, hlevel⟩ : ¬env.dist.getD 0 > maxDist ∧
        (strongestUnsynced c.pm).2 ≠ 0xffff ∧ ¬(strongestUnsynced c.pm).1 < minRxlev := by
      simpa only [not_or] using hgo
    obtain ⟨a, ha, hopen, hbest, hall⟩ := (strongestUnsynced_cases c.pm).resolve_left hfound
    rw [hbest] at hlevel ⊢
    exact Or.inl ⟨a, ⟨ha, hopen, not_lt.1 hlevel, hall⟩, rfl, rfl, _, rfl⟩

/-! ### The sweep as an exploration -/

def synced (pm : ℕ → PmInfo) : Set ℕ := {a | (pm a).flagSync = true}

/-- The first band is measured after a clearing, and synchronising to an ARFCN visits it. -/
def act : CatcherOut → Option (Act ℕ)
  | .readBandRange 0 => some .wipe
  | .fbsbReq a => some (.visit a)
  | _ => none

/-- What is let out leads the exploration on to the marks of the table that is left. -/
structure Explores (marked : Set ℕ) (r : Catcher × List CatcherOut) : Prop where
  trail : Trail (Finset.range 1024 : Finset ℕ) marked (r.2.filterMap act) (synced r.1.pm)
  cleared : .readBandRange 0 ∈ r.2 → r.1.pm = clearedTable

variable {marked : Set ℕ}

theorem wipe_mem_iff (out : List CatcherOut) :
    Act.wipe ∈ out.filterMap act ↔ .readBandRange 0 ∈ out := by
  rw [List.mem_filterMap]
  constructor
  · rintro ⟨o, ho, hact⟩
    unfold act at hact
    split at hact
    · exact ho
    · simp at hact
    · simp at hact
  · exact fun ho => ⟨_, ho, rfl⟩

/-- Outputs that are no acts leave the marks. -/
theorem Explores.quiet (h : synced c.pm = marked) {out : List CatcherOut}
    (hout : out.filterMap act = []) : Explores marked (c, out) where
  trail := by
    rw [← h, hout]
    exact .nil
  cleared := by
    rw [← wipe_mem_iff, hout]
    exact fun ho => absurd ho List.not_mem_nil

theorem Explores.stay (h : synced c.pm = marked) : Explores marked (c, []) := .quiet h rfl

theorem Explores.prepend {r : Catcher × List CatcherOut} (h : Explores marked r)
    {out : List CatcherOut} (hout : out.filterMap act = []) :
    Explores marked (r.1, out ++ r.2) where
  trail := by
    rw [List.filterMap_append, hout]
    exact h.trail
  cleared := by
    intro ho
    rcases List.mem_append.1 ho with ho | ho
    · rw [← wipe_mem_iff, hout] at ho
      exact absurd ho List.not_mem_nil
    · exact h.cleared ho

theorem Restarts.explores {r : Catcher × List CatcherOut} (h : Restarts r) (marked : Set ℕ) :
    Explores marked r where
  trail := by
    have hsynced : synced r.1.pm = ∅ := by
      rw [h.cleared]
      exact Set.eq_empty_of_forall_notMem fun a ha => Bool.false_ne_true ha
    rw [h.asked, hsynced]
    exact .wipe .nil
  cleared := fun _ => h.cleared

theorem Tunes.explores {pm : ℕ → PmInfo} {a : ℕ} {r : Catcher × List CatcherOut}
    (h : Tunes pm a r) : Explores (synced pm) r where
  trail := by
    obtain ⟨line, hasked⟩ := h.asked
    have hsynced : synced r.1.pm = insert a (synced pm) := by
      ext i
      rw [h.marked, Set.mem_insert_iff]
      change (if i = a then { pm i with flagSync := true } else pm i).flagSync = true ↔ _
      by_cases hi : i = a
      · simp [hi]
      · simp [hi, synced]
    rw [hasked, hsynced]
    exact .visit (Finset.mem_coe.2 (Finset.mem_range.2 h.chosen.arfcn)) h.chosen.unsynced.2 .nil
  cleared := by
    obtain ⟨line, hasked⟩ := h.asked
    rw [hasked]
    simp

theorem startSync_explores (h : synced c.pm = marked) : Explores marked (c.startSync cfg env) := by
  subst h
  rcases startSync_progress cfg env c with ⟨a, htunes⟩ | hrestarts
  · exact htunes.explores
  · exact hrestarts.explores _

/-- Behind the first band, `start_pm` leaves the table as it is. -/
theorem startPm_explores {sync : Catcher → Catcher × List CatcherOut} (hindex : c.pmIndex ≠ 0)
    (h : synced c.pm = marked)
    (hsync : ∀ c' : Catcher, synced c'.pm = marked → Explores marked (sync c')) :
    Explores marked (startPm cfg sync c) := by
  have hact : act (.readBandRange c.pmIndex) = none := by
    obtain ⟨index, hindex⟩ := Nat.exists_eq_succ_of_ne_zero hindex
    rw [hindex]
    rfl
  unfold startPm
  dsimp only
  split
  · have hnext : Explores marked (sync { c with state := .pm }) := hsync _ h
    refine hnext.prepend ?_
    rw [List.filterMap_cons_none hact]
    rfl
  · refine Explores.quiet (by exact h) ?_
    rw [List.filterMap_cons_none hact]
    rfl

theorem filterMap_act_of_said {ready : Prop} {meas : RxMeasStat} {out : List CatcherOut}
    (h : ∀ o ∈ out, o.Said ready meas) : out.filterMap act = [] := by
  rw [List.filterMap_eq_nil_iff]
  intro o ho
  have hsaid := h o ho
  cases o with
  | readBandRange index => exact hsaid.elim
  | fbsbReq a => exact hsaid.elim
  | _ => rfl

theorem Handled.explores {ready : Prop} {r : Catcher × List CatcherOut}
    (h : Handled cfg env c ready r) : Explores (synced c.pm) r := by
  cases h with
  | stay kept read rach said =>
    exact .quiet (congrArg synced kept.pm) (filterMap_act_of_said said)
  | sync kept said =>
    exact (startSync_explores (congrArg synced kept.pm)).prepend (filterMap_act_of_said said)

/-- A level that comes in sets no mark and takes none away. -/
theorem synced_pmRes (c : Catcher) (bandArfcn : ℕ) (rxLev : UInt8) :
    synced (c.pmRes bandArfcn rxLev).pm = synced c.pm := by
  ext i
  simp only [synced, pmRes, Set.mem_ofPred_eq]
  split <;> rfl

theorem step_explores (cfg : CatcherConfig) (c : Catcher) (e : CatcherEvent × Surroundings) :
    Explores (synced c.pm) (step cfg c e) := by
  obtain ⟨e, env⟩ := e
  cases e with
  | pmRes bandArfcn rxLev => exact Explores.stay (synced_pmRes c bandArfcn rxLev)
  | pmDone => exact startPm_explores c.pmIndex.succ_ne_zero rfl fun _ h => startSync_explores h
  | fbsbResp bsic => exact Explores.stay rfl
  | fbsbErr => exact startSync_explores rfl
  | reset =>
    simp only [step]
    split
    · exact Explores.stay rfl
    · exact (startPm_restarts _ rfl rfl).explores _
  | timer =>
    simp only [step]
    split
    · exact timeoutCb_handled.explores (c := c.stopTimer)
    · exact Explores.stay rfl
  | dataInd chan rxLevel fireCrc l3 =>
    exact (rxPhDataInd_handled chan rxLevel fireCrc l3).explores
  | chanConf data =>
    refine Explores.stay ?_
    simp only [chanConf]
    split <;> rfl

theorem run_trail (cfg : CatcherConfig) (c : Catcher) (es : List (CatcherEvent × Surroundings)) :
    Trail (Finset.range 1024 : Finset ℕ) (synced c.pm)
      (((catcher cfg).run c es).2.filterMap act) (synced ((catcher cfg).run c es).1.pm) := by
  let J : Catcher → List CatcherOut → Prop := fun c' out =>
    Trail (Finset.range 1024 : Finset ℕ) (synced c.pm) (out.filterMap act) (synced c'.pm)
  have hstep : ∀ c' out e, J c' out → J (step cfg c' e).1 (out ++ (step cfg c' e).2) := by
    intro c' out e hout
    change Trail _ _ ((out ++ _).filterMap act) _
    rw [List.filterMap_append]
    exact hout.append (step_explores cfg c' e).trail
  have hstart : J c [] := .nil
  exact (catcher cfg).history_run hstep hstart es

def tunings (out : List CatcherOut) : List ℕ :=
  out.filterMap fun o =>
    match o with
    | .fbsbReq a => some a
    | _ => none

theorem visits_act (out : List CatcherOut) : visits (out.filterMap act) = tunings out := by
  unfold visits tunings
  rw [List.filterMap_filterMap]
  congr 1
  funext o
  cases o with
  | readBandRange index => cases index <;> rfl
  | _ => rfl

/-- Each call of `start_sync` tunes to a strongest open ARFCN and marks it, or clears the table
and measures again. The first band is only measured over a cleared table, and between two such
measurements no ARFCN is tuned to twice, so that at most 1024 are. -/
theorem sweep_progress (cfg : CatcherConfig) (c : Catcher) :
    (∀ env, (∃ a, Tunes c.pm a (c.startSync cfg env)) ∨ Restarts (c.startSync cfg env)) ∧
    (∀ e, .readBandRange 0 ∈ ((catcher cfg).step c e).2 →
      ((catcher cfg).step c e).1.pm = clearedTable) ∧
    ∀ es out, out <:+: ((catcher cfg).run c es).2 → .readBandRange 0 ∉ out →
      (tunings out).Nodup ∧ (tunings out).length ≤ 1024 := by
  refine ⟨fun env => startSync_progress cfg env c, fun e => (step_explores cfg c e).cleared,
    fun es out hpart hclear => ?_⟩
  obtain ⟨before, after, htrail⟩ := (run_trail cfg c es).part_of (hpart.filterMap act)
  rw [← wipe_mem_iff] at hclear
  have hlength := htrail.length_visits_le hclear
  rw [visits_act, Finset.card_range] at hlength
  rw [← visits_act]
  exact ⟨(htrail.visits_fresh hclear).1, (visits_act out).symm ▸ hlength⟩

end Catcher
end ImsiCatcher

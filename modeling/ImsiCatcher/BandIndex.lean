import ImsiCatcher.Handlers

/-!
# The index into the band table

Only the end of a power measurement moves the index, and it does so in any state. The index
goes back to the first band when the scanner is reset or finds nothing to synchronise to.
Where it has tuned to an ARFCN, the index stays at the last entry, and a further end of a
measurement moves it behind the table.
-/

namespace ImsiCatcher

def CatcherOut.WithinBandRange : CatcherOut → Prop
  | readBandRange index => index ≤ 3
  | _ => True

instance CatcherOut.decidableWithinBandRange (o : CatcherOut) : Decidable o.WithinBandRange :=
  match o with
  | readBandRange _ => inferInstanceAs (Decidable (_ ≤ _))
  | resetReq => inferInstanceAs (Decidable True)
  | pmReqRange _ _ => inferInstanceAs (Decidable True)
  | fbsbReq _ => inferInstanceAs (Decidable True)
  | ccchModeReq _ => inferInstanceAs (Decidable True)
  | chanRqd _ _ => inferInstanceAs (Decidable True)
  | logPm => inferInstanceAs (Decidable True)
  | logSysinfo _ _ => inferInstanceAs (Decidable True)
  | summary _ => inferInstanceAs (Decidable True)

namespace Catcher

/-! ### When the scanner goes back to the first band -/

def nothingToSync (c : Catcher) (env : Surroundings) : Bool :=
  env.dist.getD 0 > maxDist ∨ (strongestUnsynced c.pm).2 = 0xffff ∨
    (strongestUnsynced c.pm).1 < minRxlev

/-- The message assigns or rejects the channel that was asked for. -/
def answers (c : Catcher) (msg : Octets) : Bool :=
  match messageType msg with
  | 0x3f => c.matchRa msg 7
  | 0x39 => c.matchRa msg 7 ∨ c.matchRa msg 14
  | 0x3a => c.matchRa msg 4 ∨ c.matchRa msg 8 ∨ c.matchRa msg 12 ∨ c.matchRa msg 16
  | _ => false

/-- The frame ends the look at a cell: a channel request is answered, or the system information
is complete and no channel is to be requested. -/
def frameEndsCell (cfg : CatcherConfig) (c : Catcher) (chan : Chan) (l3 : Octets) : Bool :=
  match chan with
  | .bcch => (c.state = .read ∨ c.state = .rach) ∧ cfg.rachMax = 0 ∧
      (c.sysinfo.bcchDecode l3).any Gsm48Sysinfo.complete
  | .pchAgch => c.state = .rach ∧ c.answers l3
  | .other => false

def endsCell (cfg : CatcherConfig) (c : Catcher) : CatcherEvent → Bool
  | .fbsbErr => true
  | .timer => c.timerPending ∧
      (c.state = .read ∨ c.state = .rach ∧ ((c.rachCount + 1 : ℕ) : ℤ) = cfg.rachMax)
  | .dataInd chan _ fireCrc l3 => fireCrc < 2 ∧ c.frameEndsCell cfg chan l3
  | _ => false

/-- The ends of measurements since the scanner last went back to the first band, after one more
event. The third of them calls `start_sync`. -/
def donesAfter (cfg : CatcherConfig) (c : Catcher) (dones : ℕ) :
    CatcherEvent × Surroundings → ℕ
  | (.pmDone, env) => if dones + 1 = 3 ∧ c.nothingToSync env then 0 else dones + 1
  | (.reset, _) => if c.started then dones else 0
  | (e, env) => if c.endsCell cfg e ∧ c.nothingToSync env then 0 else dones

/-- The same for a run from the start. -/
def donesSinceFirstBand (cfg : CatcherConfig) (es : List (CatcherEvent × Surroundings)) : ℕ :=
  (((catcher cfg).withHistory (donesAfter cfg)).run ({}, 0) es).1.2

variable {cfg : CatcherConfig} {env : Surroundings} {c c' : Catcher}

theorem startSync_pmIndex (kept : Kept c c') :
    (c'.startSync cfg env).1.pmIndex = if c.nothingToSync env then 0 else c.pmIndex := by
  rw [← kept.pmIndex]
  unfold startSync nothingToSync
  rw [kept.pm]
  by_cases hgo : env.dist.getD 0 > maxDist ∨ (strongestUnsynced c.pm).2 = 0xffff ∨
      (strongestUnsynced c.pm).1 < minRxlev
  · rw [if_pos hgo, if_pos (decide_eq_true hgo)]
    unfold startPm
    dsimp only
    split <;> rfl
  · rw [if_neg hgo, if_neg (by simpa using hgo)]

/-- Where the index is after a handler, which calls `start_sync` exactly if `ends`. -/
def IndexAfter (env : Surroundings) (c : Catcher) (ends : Bool)
    (r : Catcher × List CatcherOut) : Prop :=
  r.1.pmIndex = if ends ∧ c.nothingToSync env then 0 else c.pmIndex

theorem IndexAfter.stay {r : Catcher × List CatcherOut} (kept : Kept c r.1) :
    IndexAfter env c false r := kept.pmIndex

theorem IndexAfter.sync (kept : Kept c c') {out : List CatcherOut} :
    IndexAfter env c true ((c'.startSync cfg env).1, out) := by
  unfold IndexAfter
  simp only [startSync_pmIndex kept, true_and]

theorem IndexAfter.ite {p : Prop} [Decidable p] {r r' : Catcher × List CatcherOut}
    (h : p → IndexAfter env c true r) (h' : ¬p → IndexAfter env c false r') :
    IndexAfter env c p (if p then r else r') := by
  split
  case isTrue hp =>
    rw [decide_eq_true hp]
    exact h hp
  case isFalse hp =>
    rw [decide_eq_false hp]
    exact h' hp

/-- A handler that looks at a message in the RACH state only. -/
theorem IndexAfter.inRach (kept : Kept c c') {b : Bool} {r : Catcher × List CatcherOut}
    (h : IndexAfter env c b r) :
    IndexAfter env c (c'.state = .rach ∧ b) (if c'.state ≠ .rach then (c', []) else r) := by
  by_cases hrach : c'.state = .rach
  · rw [if_neg (not_not.2 hrach)]
    simpa only [hrach, true_and, Bool.decide_eq_true] using h
  · rw [if_pos hrach, decide_eq_false fun hboth => hrach hboth.1]
    exact .stay kept

theorem startRach_index (kept : Kept c c') :
    IndexAfter env c ((c'.rachCount : ℤ) = cfg.rachMax) (startRach cfg env c') :=
  .ite (fun _ => .sync kept) fun _ => .stay ⟨kept.pm, kept.pmIndex, kept.meas⟩

theorem timeoutCb_index (kept : Kept c c') : IndexAfter env c
    (c'.state = .read ∨ c'.state = .rach ∧ ((c'.rachCount + 1 : ℕ) : ℤ) = cfg.rachMax)
    (c'.timeoutCb cfg env) := by
  have hrach : IndexAfter env c (((c'.rachCount + 1 : ℕ) : ℤ) = cfg.rachMax)
      (startRach cfg env { c' with rachCount := c'.rachCount + 1 }) :=
    startRach_index ⟨kept.pm, kept.pmIndex, kept.meas⟩
  unfold timeoutCb
  split
  case h_1 hread =>
    rw [decide_eq_true (Or.inl hread)]
    exact .sync kept
  case h_2 hstate => simpa only [hstate, reduceCtorEq, true_and, false_or] using hrach
  case h_3 hread hother =>
    rw [decide_eq_false (by tauto)]
    exact .stay kept

theorem taResult_index (kept : Kept c c') (ta : UInt8) :
    IndexAfter env c true (c'.taResult cfg env ta) := by
  have hstopped : Kept c c'.stopTimer := ⟨kept.pm, kept.pmIndex, kept.meas⟩
  exact .sync hstopped

theorem immAss_index (kept : Kept c c') (msg : Octets) :
    IndexAfter env c (c'.state = .rach ∧ c'.matchRa msg 7) (c'.immAss cfg env msg) := by
  refine .inRach kept ?_
  have hmatch : IndexAfter env c (c'.matchRa msg 7 = true)
      (if c'.matchRa msg 7 then c'.taResult cfg env (octet msg 10) else (c', [])) :=
    .ite (fun _ => taResult_index kept _) fun _ => .stay kept
  rwa [Bool.decide_eq_true] at hmatch

theorem immAssExt_index (kept : Kept c c') (msg : Octets) :
    IndexAfter env c (c'.state = .rach ∧ (c'.matchRa msg 7 ∨ c'.matchRa msg 14 : Bool))
      (c'.immAssExt cfg env msg) := by
  refine .inRach kept ?_
  split
  case isTrue h =>
    rw [decide_eq_true (Or.inl h)]
    exact taResult_index kept _
  case isFalse h =>
    split
    case isTrue h' =>
      rw [decide_eq_true (Or.inr h')]
      exact taResult_index kept _
    case isFalse h' =>
      rw [decide_eq_false (not_or.2 ⟨h, h'⟩)]
      exact .stay kept

theorem immAssRej_index (kept : Kept c c') (msg : Octets) :
    IndexAfter env c (c'.state = .rach ∧ (c'.matchRa msg 4 ∨ c'.matchRa msg 8 ∨
      c'.matchRa msg 12 ∨ c'.matchRa msg 16 : Bool)) (c'.immAssRej cfg env msg) :=
  .inRach kept (.ite (fun _ => taResult_index kept _) fun _ => .stay kept)

theorem pchAgch_index (kept : Kept c c') (msg : Octets) :
    IndexAfter env c (c'.state = .rach ∧ c'.answers msg) (c'.pchAgch cfg env msg) := by
  unfold pchAgch answers
  by_cases hass : messageType msg = 0x3f
  · rw [hass]
    exact immAss_index kept msg
  by_cases hext : messageType msg = 0x39
  · rw [hext]
    exact immAssExt_index kept msg
  by_cases hrej : messageType msg = 0x3a
  · rw [hrej]
    exact immAssRej_index kept msg
  · simp only [Bool.false_eq_true, and_false, decide_false]
    exact .stay kept

theorem newSysinfo_index (kept : Kept c c') :
    IndexAfter env c (cfg.rachMax = 0 ∧ c'.sysinfo.complete) (newSysinfo cfg env c') := by
  have hrach : IndexAfter env c ((0 : ℤ) = cfg.rachMax)
      (startRach cfg env { c'.stopTimer with rachCount := 0 }) :=
    startRach_index ⟨kept.pm, kept.pmIndex, kept.meas⟩
  unfold newSysinfo
  split
  case isTrue hcomplete =>
    simpa only [hcomplete, and_true, eq_comm] using hrach
  case isFalse hcomplete =>
    rw [decide_eq_false fun h => hcomplete h.2]
    exact .stay ⟨kept.pm, kept.pmIndex, kept.meas⟩

theorem bcch_index (kept : Kept c c') (msg : Octets) :
    IndexAfter env c (cfg.rachMax = 0 ∧ (c'.sysinfo.bcchDecode msg).any Gsm48Sysinfo.complete)
      (c'.bcch cfg env msg) := by
  unfold bcch
  cases c'.sysinfo.bcchDecode msg with
  | none =>
    rw [decide_eq_false fun h => Bool.false_ne_true h.2]
    exact .stay kept
  | some s =>
    have hnew : IndexAfter env c (cfg.rachMax = 0 ∧ s.complete)
        (newSysinfo cfg env { c' with sysinfo := s }) :=
      newSysinfo_index ⟨kept.pm, kept.pmIndex, kept.meas⟩
    exact hnew

theorem unitDataInd_index (kept : Kept c c') (chan : Chan) (l3 : Octets) :
    IndexAfter env c (c'.frameEndsCell cfg chan l3) (c'.unitDataInd cfg env chan l3) := by
  unfold unitDataInd
  by_cases hready : c'.state = .read ∨ c'.state = .rach
  · rw [if_neg (by tauto)]
    cases chan with
    | bcch => simpa only [frameEndsCell, hready, true_and] using bcch_index kept l3
    | pchAgch => exact pchAgch_index kept l3
    | other => exact .stay kept
  · have hnot : c'.frameEndsCell cfg chan l3 = false := by
      cases chan with
      | bcch => exact decide_eq_false fun h => hready h.1
      | pchAgch => exact decide_eq_false fun h => hready (Or.inr h.1)
      | other => rfl
    rw [if_pos (by tauto), hnot]
    exact .stay kept

theorem rxPhDataInd_index (c : Catcher) (chan : Chan) (rxLevel : UInt8) (fireCrc : ℕ)
    (l3 : Octets) : IndexAfter env c (fireCrc < 2 ∧ c.frameEndsCell cfg chan l3)
      (c.rxPhDataInd cfg env chan rxLevel fireCrc l3) := by
  have hunit : IndexAfter env c ((c.counted rxLevel).frameEndsCell cfg chan l3)
      ((c.counted rxLevel).unitDataInd cfg env chan l3) :=
    unitDataInd_index (c := c.counted rxLevel) ⟨rfl, rfl, rfl⟩ chan l3
  have hcounted : (c.counted rxLevel).frameEndsCell cfg chan l3 = c.frameEndsCell cfg chan l3 := by
    cases chan <;> rfl
  rw [hcounted] at hunit
  unfold rxPhDataInd
  dsimp only
  by_cases hbad : 2 ≤ fireCrc
  · rw [if_pos hbad, decide_eq_false fun h => Nat.not_lt.2 hbad h.1]
    rfl
  · rw [if_neg hbad]
    simpa only [counted, Nat.not_le.1 hbad, true_and, Bool.decide_eq_true] using hunit

/-! ### Reads within the table -/

structure Within (r : Catcher × List CatcherOut) : Prop where
  index : r.1.pmIndex ≤ 3
  reads : ∀ o ∈ r.2, o.WithinBandRange

theorem Within.stay (h : c.pmIndex ≤ 3) : Within (c, []) :=
  ⟨h, fun _ ho => absurd ho List.not_mem_nil⟩

theorem Within.prepend {r : Catcher × List CatcherOut} (h : Within r) {out : List CatcherOut}
    (hout : ∀ o ∈ out, o.WithinBandRange) : Within (r.1, out ++ r.2) :=
  ⟨h.index, List.forall_mem_append.2 ⟨hout, h.reads⟩⟩

theorem startPm_within {sync : Catcher → Catcher × List CatcherOut} (h : c.pmIndex ≤ 3)
    (hsync : ∀ c' : Catcher, c'.pmIndex ≤ 3 → Within (sync c')) : Within (startPm cfg sync c) := by
  unfold startPm
  dsimp only
  split
  · have hnext : Within (sync { c with state := .pm }) := hsync _ h
    refine hnext.prepend ?_
    simp [CatcherOut.WithinBandRange, h]
  · refine ⟨h, ?_⟩
    simp [CatcherOut.WithinBandRange, h]

theorem startSync_within (h : c.pmIndex ≤ 3) : Within (c.startSync cfg env) := by
  unfold startSync
  dsimp only
  split
  · exact startPm_within (Nat.zero_le 3) fun _ h' => Within.stay h'
  · refine ⟨h, ?_⟩
    simp [CatcherOut.WithinBandRange]

theorem withinBandRange_of_said {ready : Prop} {meas : RxMeasStat} {o : CatcherOut}
    (h : o.Said ready meas) : o.WithinBandRange := by
  cases o with
  | readBandRange index => exact h.elim
  | _ => trivial

theorem Handled.within {ready : Prop} {r : Catcher × List CatcherOut}
    (h : Handled cfg env c ready r) (hindex : c.pmIndex ≤ 3) : Within r := by
  cases h with
  | stay kept read rach said =>
    refine ⟨?_, fun o ho => withinBandRange_of_said (said o ho)⟩
    rwa [kept.pmIndex]
  | sync kept said =>
    rw [← kept.pmIndex] at hindex
    exact (startSync_within hindex).prepend fun o ho => withinBandRange_of_said (said o ho)

theorem pmDone_within (h : c.pmIndex + 1 ≤ 3) : Within (step cfg c (.pmDone, env)) :=
  startPm_within h fun _ h' => startSync_within h'

/-- Every event but the end of a measurement leaves the reads within the table. -/
theorem step_within (h : c.pmIndex ≤ 3) {e : CatcherEvent} (he : e ≠ .pmDone) :
    Within (step cfg c (e, env)) := by
  have hsync : ∀ c' : Catcher, c'.pmIndex ≤ 3 → Within (startSync cfg env c') :=
    fun c' h' => startSync_within h'
  cases e with
  | pmDone => exact absurd rfl he
  | pmRes bandArfcn rxLev => exact Within.stay h
  | fbsbResp bsic => exact Within.stay h
  | fbsbErr => exact startSync_within h
  | reset =>
    simp only [step]
    split
    · exact Within.stay h
    · exact startPm_within (Nat.zero_le 3) hsync
  | timer =>
    simp only [step]
    split
    · exact timeoutCb_handled.within (by exact h)
    · exact Within.stay h
  | dataInd chan rxLevel fireCrc l3 =>
    exact (rxPhDataInd_handled chan rxLevel fireCrc l3).within h
  | chanConf data =>
    refine Within.stay ?_
    unfold chanConf
    dsimp only
    split <;> exact h

/-! ### The index counts the measurements that ended -/

theorem reads_startPm (cfg : CatcherConfig) (sync : Catcher → Catcher × List CatcherOut)
    (c : Catcher) : .readBandRange c.pmIndex ∈ (startPm cfg sync c).2 := by
  unfold startPm
  dsimp only
  split <;> simp

/-- In front of the last entry `start_pm` measures, and at the last entry it calls
`start_sync`. -/
theorem pmDone_index (h : c.pmIndex + 1 ≤ 3) :
    (step cfg c (.pmDone, env)).1.pmIndex = donesAfter cfg c c.pmIndex (.pmDone, env) := by
  by_cases hlast : c.pmIndex + 1 = 3
  · have hsync : (step cfg c (.pmDone, env)).1 =
        (startSync cfg env { c with pmIndex := c.pmIndex + 1, state := .pm }).1 := by
      simp only [step, startPm, hlast]
      rfl
    have kept : Kept { c with pmIndex := c.pmIndex + 1 }
        { c with pmIndex := c.pmIndex + 1, state := .pm } := ⟨rfl, rfl, rfl⟩
    rw [hsync, startSync_pmIndex kept]
    simp only [donesAfter, hlast, true_and]
    rfl
  · have hmeasured : (step cfg c (.pmDone, env)).1.pmIndex = c.pmIndex + 1 := by
      have hfront : c.pmIndex = 0 ∨ c.pmIndex = 1 := by omega
      rcases hfront with h0 | h0 <;> simp [step, startPm, bandRange, h0]
    rw [hmeasured]
    simp only [donesAfter, hlast, false_and, if_false]

theorem step_index {e : CatcherEvent} (he : e ≠ .pmDone) :
    (step cfg c (e, env)).1.pmIndex = donesAfter cfg c c.pmIndex (e, env) := by
  have kept : Kept c c := ⟨rfl, rfl, rfl⟩
  cases e with
  | pmDone => exact absurd rfl he
  | pmRes bandArfcn rxLev => rfl
  | fbsbResp bsic => rfl
  | chanConf data =>
    simp only [step, chanConf]
    split <;> rfl
  | reset =>
    simp only [step, donesAfter]
    split
    · rfl
    · rfl
  | fbsbErr =>
    have hend : IndexAfter env c true (c.startSync cfg env) := .sync kept
    exact hend
  | timer =>
    by_cases hpending : c.timerPending
    · have hstopped : Kept c c.stopTimer := ⟨rfl, rfl, rfl⟩
      have hend := @timeoutCb_index cfg env c c.stopTimer hstopped
      simp only [step, donesAfter, endsCell, hpending, true_and]
      exact hend
    · simp [step, donesAfter, endsCell, hpending]
  | dataInd chan rxLevel fireCrc l3 => exact rxPhDataInd_index c chan rxLevel fireCrc l3

/-- As long as the table is read within its bounds, the index is the count. -/
theorem step_counts (h : c.pmIndex ≤ 3) (e : CatcherEvent × Surroundings)
    (hdones : donesAfter cfg c c.pmIndex e ≤ 3) :
    (step cfg c e).1.pmIndex = donesAfter cfg c c.pmIndex e := by
  obtain ⟨e, env⟩ := e
  by_cases he : e = .pmDone
  · subst he
    refine pmDone_index ?_
    by_contra hbehind
    have hlast : c.pmIndex = 3 := by omega
    simp [donesAfter, hlast] at hdones
  · exact step_index he

theorem step_reads_iff (h : c.pmIndex ≤ 3) (e : CatcherEvent × Surroundings) :
    (∀ o ∈ (step cfg c e).2, o.WithinBandRange) ↔ donesAfter cfg c c.pmIndex e ≤ 3 := by
  obtain ⟨e, env⟩ := e
  by_cases he : e = .pmDone
  · subst he
    by_cases hfront : c.pmIndex + 1 ≤ 3
    · have hwithin : Within (step cfg c (.pmDone, env)) := pmDone_within hfront
      have hindex := hwithin.index
      rw [pmDone_index hfront] at hindex
      exact iff_of_true hwithin.reads hindex
    · have hlast : c.pmIndex = 3 := by omega
      refine iff_of_false (fun hreads => hfront ?_) (by simp [donesAfter, hlast])
      exact hreads _ (reads_startPm cfg _ _)
  · have hwithin : Within (step cfg c (e, env)) := step_within h he
    have hindex := hwithin.index
    rw [step_index he] at hindex
    exact iff_of_true hwithin.reads hindex

/-- The band table is read within its bounds just when at most three measurements have ended
at any time since the scanner last went back to the first band. -/
theorem band_range_within_iff (cfg : CatcherConfig) (es : List (CatcherEvent × Surroundings)) :
    (∀ o ∈ ((catcher cfg).run {} es).2, o.WithinBandRange) ↔
      ∀ k, donesSinceFirstBand cfg (es.take k) ≤ 3 := by
  refine (catcher cfg).outputs_iff_history (B := fun dones => dones ≤ 3)
    (I := fun c dones => c.pmIndex = dones ∧ dones ≤ 3)
    ?_ ?_ ⟨rfl, Nat.zero_le 3⟩ (Nat.zero_le 3) es
  · rintro c _ e ⟨rfl, hindex⟩ hdones
    exact ⟨step_counts hindex e hdones, hdones⟩
  · rintro c _ e ⟨rfl, hindex⟩
    exact step_reads_iff hindex e

/-- The third band has been measured and an ARFCN was tuned to, when a further measurement
ends. -/
theorem band_range_overrun : ¬ ∀ (cfg : CatcherConfig) (es : List (CatcherEvent × Surroundings)),
    ∀ o ∈ ((catcher cfg).run {} es).2, o.WithinBandRange := by
  intro h
  have hrun := h {} [(.reset, {}), (.pmRes 20 50, {}), (.pmDone, {}), (.pmDone, {}),
    (.pmDone, {}), (.pmDone, {})]
  revert hrun
  decide +kernel

end Catcher
end ImsiCatcher

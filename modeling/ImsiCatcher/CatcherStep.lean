import ImsiCatcher.CatcherMachine

/-!
# What one event does to the scanner

Every invariant of the scanner is derived from `step_reported`: it says, once for all
events, which record a step prints, which ARFCN it tunes to, what becomes of the system
information and when the scanner is in the RACH state afterwards.
-/

namespace ImsiCatcher

def tuned (out : List CatcherOut) : Option ℕ :=
  out.findSome? fun | .fbsbReq a => some a | _ => none

/-- The records that `log_sysinfo` prints. -/
def reports (out : List CatcherOut) : List Gsm48Sysinfo :=
  out.filterMap fun | .logSysinfo s _ => some s | _ => none

theorem mem_reports {out : List CatcherOut} {s : Gsm48Sysinfo} :
    s ∈ reports out ↔ ∃ meas, .logSysinfo s meas ∈ out := by
  simp only [reports, List.mem_filterMap]
  constructor
  · rintro ⟨o, ho, h⟩
    cases o with
    | logSysinfo s' meas =>
      obtain rfl : s' = s := by simpa using h
      exact ⟨meas, ho⟩
    | _ => simp at h
  · rintro ⟨meas, hm⟩
    exact ⟨_, hm, rfl⟩

theorem tuned_append (out out' : List CatcherOut) :
    tuned (out ++ out') = (tuned out).or (tuned out') := List.findSome?_append

theorem reports_append (out out' : List CatcherOut) :
    reports (out ++ out') = reports out ++ reports out' := List.filterMap_append

namespace Catcher

def heard (c : Catcher) (e : CatcherEvent × Surroundings) : Option Octets :=
  match e.1 with
  | .dataInd .bcch _ fireCrc l3 =>
    if fireCrc < 2 ∧ (c.state = .read ∨ c.state = .rach) then some l3 else none
  | _ => none

/-- The system information once the event is taken in, and before it is acted on. -/
def takenIn (c : Catcher) (e : CatcherEvent × Surroundings) : Gsm48Sysinfo :=
  match e.1 with
  | .fbsbResp bsic => { c.sysinfo with bsic := bsic.toNat }
  | _ => match c.heard e with
    | some msg => (c.sysinfo.bcchDecode msg).getD c.sysinfo
    | none => c.sysinfo

/-- The scanner left the cell whose record was `s`: for another ARFCN, or to measure. -/
structure Left (s : Gsm48Sysinfo) (r : Catcher × List CatcherOut) : Prop where
  state : r.1.state ≠ .rach
  sysinfo : r.1.sysinfo = (tuned r.2).elim s fun a => { arfcn := a }
  silent : reports r.2 = []

theorem startPm_left {cfg : CatcherConfig} {sync : Catcher → Catcher × List CatcherOut}
    {c : Catcher} {s : Gsm48Sysinfo} (hs : c.sysinfo = s)
    (hsync : ∀ c : Catcher, c.state = .pm → c.sysinfo = s → Left s (sync c)) :
    Left s (startPm cfg sync c) := by
  obtain ⟨hstate, hsys, hsil⟩ := hsync { c with state := .pm } rfl hs
  unfold startPm
  simp only
  split
  · exact ⟨hstate, hsys, hsil⟩
  · exact ⟨by simp, hs, rfl⟩

theorem startSync_left (cfg : CatcherConfig) (env : Surroundings) (c : Catcher) :
    Left c.sysinfo (c.startSync cfg env) := by
  unfold startSync
  simp only
  split
  · refine startPm_left rfl ?_
    intro c' hstate hs
    exact ⟨by simp [hstate], hs, rfl⟩
  · exact ⟨by simp, rfl, rfl⟩

/-- What a step does once the record is `s`: it stays, or it leaves with or without a report.
A report is made, and the RACH state entered, only from the RACH state or with a complete
record. -/
structure Reported (c : Catcher) (s : Gsm48Sysinfo) (r : Catcher × List CatcherOut) : Prop where
  sysinfo : r.1.sysinfo = (tuned r.2).elim s fun a => { arfcn := a }
  reports : reports r.2 = [] ∨ reports r.2 = [s] ∧ (c.state = .rach ∨ s.complete)
  rach : r.1.state = .rach → (c.state = .rach ∨ s.complete) ∧ r.1.sysinfo = s

/-- A record that is printed is the one taken in. -/
theorem Reported.of_mem {c : Catcher} {s s' : Gsm48Sysinfo} {r : Catcher × List CatcherOut}
    (h : Reported c s r) (hs : s' ∈ ImsiCatcher.reports r.2) :
    s' = s ∧ (c.state = .rach ∨ s.complete) := by
  rcases h.reports with hnil | ⟨hone, hfrom⟩
  · rw [hnil] at hs
    exact absurd hs List.not_mem_nil
  · rw [hone, List.mem_singleton] at hs
    exact ⟨hs, hfrom⟩

theorem Left.reported {c : Catcher} {s : Gsm48Sysinfo} {r : Catcher × List CatcherOut}
    (h : Left s r) : Reported c s r :=
  ⟨h.sysinfo, Or.inl h.silent, fun hr => absurd hr h.state⟩

theorem Left.reported_log {c : Catcher} {s : Gsm48Sysinfo} {r : Catcher × List CatcherOut}
    (h : Left s r) (meas : RxMeasStat) (hc : c.state = .rach ∨ s.complete) :
    Reported c s (r.1, .logSysinfo s meas :: r.2) := by
  refine ⟨h.sysinfo, Or.inr ⟨?_, hc⟩, fun hr => absurd hr h.state⟩
  have hcons : ImsiCatcher.reports (.logSysinfo s meas :: r.2) = s :: ImsiCatcher.reports r.2 := rfl
  rw [hcons, h.silent]

theorem Reported.stay {c : Catcher} {s : Gsm48Sysinfo} {c' : Catcher} (hs : c'.sysinfo = s)
    (hr : c'.state = .rach → c.state = .rach ∨ s.complete) : Reported c s (c', []) :=
  ⟨hs, Or.inl rfl, fun h => ⟨hr h, hs⟩⟩

/-- Outputs that neither tune nor report do not matter. -/
theorem Reported.prepend {c : Catcher} {s : Gsm48Sysinfo} {r : Catcher × List CatcherOut}
    (h : Reported c s r) (out : List CatcherOut) (ht : tuned out = none)
    (hr : ImsiCatcher.reports out = []) : Reported c s (r.1, out ++ r.2) := by
  refine ⟨?_, ?_, h.rach⟩
  · rw [tuned_append, ht]
    exact h.sysinfo
  · rw [reports_append, hr]
    exact h.reports

theorem startRach_reported {cfg : CatcherConfig} {env : Surroundings} {c c' : Catcher}
    {s : Gsm48Sysinfo} (hs : c'.sysinfo = s) (hc : c.state = .rach ∨ s.complete) :
    Reported c s (startRach cfg env c') := by
  subst hs
  unfold startRach
  split
  · exact (startSync_left cfg env c').reported_log c'.meas hc
  · exact ⟨rfl, Or.inl rfl, fun _ => ⟨hc, rfl⟩⟩

theorem newSysinfo_reported {cfg : CatcherConfig} {env : Surroundings} {c c' : Catcher}
    {s : Gsm48Sysinfo} (hs : c'.sysinfo = s) (hstate : c'.state = c.state) :
    Reported c s (newSysinfo cfg env c') := by
  subst hs
  unfold newSysinfo
  split
  · rename_i hcomplete
    refine startRach_reported ?_ (Or.inr hcomplete)
    rfl
  · refine Reported.stay rfl ?_
    intro h
    exact Or.inl (hstate ▸ h)

theorem bcch_reported {cfg : CatcherConfig} {env : Surroundings} {c c' : Catcher} {msg : Octets}
    {s : Gsm48Sysinfo} (hs : c'.sysinfo = s) (hstate : c'.state = c.state) :
    Reported c ((s.bcchDecode msg).getD s) (c'.bcch cfg env msg) := by
  subst hs
  unfold bcch
  cases hdec : c'.sysinfo.bcchDecode msg with
  | none => exact Reported.stay rfl fun h => Or.inl (hstate ▸ h)
  | some s =>
    have h : Reported c s (newSysinfo cfg env { c' with sysinfo := s }) :=
      newSysinfo_reported (by rfl) hstate
    by_cases hsi3 : messageType msg = 0x1b
    · simp only [hsi3, if_true]
      exact h.prepend [_] rfl rfl
    · simp only [hsi3, if_false]
      exact h

theorem taResult_reported {cfg : CatcherConfig} {env : Surroundings} {c c' : Catcher}
    (ta : UInt8) (hc : c.state = .rach) :
    Reported c c'.sysinfo (taResult cfg env ta c') := by
  unfold taResult
  have h := (startSync_left cfg env c'.stopTimer).reported_log c'.stopTimer.meas
    (Or.inl hc)
  by_cases hta : ta = 0xff
  · simp only [hta, if_true]
    exact h.prepend [_] rfl rfl
  · simp only [hta, if_false]
    exact h

theorem pchAgch_reported {cfg : CatcherConfig} {env : Surroundings} {c c' : Catcher}
    {msg : Octets} {s : Gsm48Sysinfo} (hs : c'.sysinfo = s) (hstate : c'.state = c.state) :
    Reported c s (c'.pchAgch cfg env msg) := by
  subst hs
  have hstay : Reported c c'.sysinfo (c', []) := Reported.stay rfl fun h => Or.inl (hstate ▸ h)
  by_cases hr : c'.state = .rach
  · have hta : ∀ ta, Reported c c'.sysinfo (c'.taResult cfg env ta) :=
      fun ta => taResult_reported ta (hstate ▸ hr)
    unfold pchAgch immAss immAssExt immAssRej
    simp only [hr, ne_eq, not_true_eq_false, if_false]
    repeat' split
    all_goals first | exact hta _ | exact hstay
  · unfold pchAgch immAss immAssExt immAssRej
    simp only [ne_eq, hr, not_false_eq_true, if_true]
    split <;> exact hstay

theorem rxPhDataInd_reported {cfg : CatcherConfig} {env : Surroundings} {c : Catcher}
    {chan : Chan} {rxLevel : UInt8} {fireCrc : ℕ} {l3 : Octets} :
    Reported c (c.takenIn (.dataInd chan rxLevel fireCrc l3, env))
      (c.rxPhDataInd cfg env chan rxLevel fireCrc l3) := by
  unfold rxPhDataInd unitDataInd
  simp only
  by_cases hcrc : 2 ≤ fireCrc
  · have hheard : c.takenIn (.dataInd chan rxLevel fireCrc l3, env) = c.sysinfo := by
      cases chan <;> simp [takenIn, heard, Nat.not_lt.2 hcrc]
    rw [if_pos hcrc, hheard]
    exact Reported.stay rfl fun h => Or.inl h
  by_cases hstate : c.state ≠ .read ∧ c.state ≠ .rach
  · have hheard : c.takenIn (.dataInd chan rxLevel fireCrc l3, env) = c.sysinfo := by
      cases chan <;> simp [takenIn, heard, hstate]
    rw [if_neg hcrc, if_pos hstate, hheard]
    exact Reported.stay rfl fun h => Or.inl h
  rw [if_neg hcrc, if_neg hstate]
  have hlt : fireCrc < 2 := by omega
  have hread : c.state = .read ∨ c.state = .rach := by
    by_contra h
    exact hstate (not_or.1 h)
  cases chan with
  | bcch =>
    simp only [takenIn, heard, hlt, hread, and_self, if_true]
    exact bcch_reported rfl rfl
  | pchAgch => exact pchAgch_reported rfl rfl
  | other => exact Reported.stay rfl fun h => Or.inl h

theorem step_reported (cfg : CatcherConfig) (c : Catcher) (e : CatcherEvent × Surroundings) :
    Reported c (c.takenIn e) (step cfg c e) := by
  obtain ⟨e, env⟩ := e
  have hsync : ∀ c' : Catcher, c'.state = .pm → c'.sysinfo = c.sysinfo →
      Left c.sysinfo (startSync cfg env c') := by
    intro c' _ hs
    exact hs ▸ startSync_left cfg env c'
  cases e with
  | pmRes bandArfcn rxLev => exact Reported.stay rfl fun h => Or.inl h
  | pmDone => exact (startPm_left (by rfl) hsync).reported
  | fbsbResp bsic => exact Reported.stay rfl fun h => by simp [startTimer] at h
  | fbsbErr => exact (startSync_left cfg env c).reported
  | reset =>
    simp only [step]
    split
    · exact Reported.stay rfl fun h => Or.inl h
    · exact (startPm_left (by rfl) hsync).reported
  | timer =>
    simp only [step]
    split
    · unfold timeoutCb
      cases hstate : c.stopTimer.state with
      | read => exact (startSync_left cfg env c.stopTimer).reported
      | rach => exact startRach_reported (by rfl) (Or.inl hstate)
      | pm => exact Reported.stay rfl fun h => Or.inl h
      | sync => exact Reported.stay rfl fun h => Or.inl h
    · exact Reported.stay rfl fun h => Or.inl h
  | dataInd chan rxLevel fireCrc l3 => exact rxPhDataInd_reported
  | chanConf data =>
    simp only [step, chanConf]
    split <;> exact Reported.stay rfl fun h => Or.inl h

end Catcher
end ImsiCatcher

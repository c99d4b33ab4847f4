import ImsiCatcher.CatcherMachine

/-!
# What the handlers of frames and of the timer do

A handler prints and asks, and then it stays or calls `start_sync`. It leaves the power table
and the count of frames alone. Only where it is ready does it print a record or enter the RACH
state: while a frame is looked at, or in the RACH state already.
-/

namespace ImsiCatcher

/-- What is said before `start_sync` is called: a record only where it is ready, with the frames
that were counted. -/
def CatcherOut.Said (ready : Prop) (meas : RxMeasStat) : CatcherOut → Prop
  | logSysinfo _ meas' => ready ∧ meas' = meas
  | summary _ | ccchModeReq _ | chanRqd _ _ => True
  | _ => False

namespace Catcher

structure Kept (c c' : Catcher) : Prop where
  pm : c'.pm = c.pm
  pmIndex : c'.pmIndex = c.pmIndex
  meas : c'.meas = c.meas

inductive Handled (cfg : CatcherConfig) (env : Surroundings) (c : Catcher) (ready : Prop) :
    Catcher × List CatcherOut → Prop
  | stay {c' : Catcher} {out : List CatcherOut} (kept : Kept c c')
      (read : c'.state = .read → c.state = .read) (rach : c'.state = .rach → ready)
      (said : ∀ o ∈ out, o.Said False c.meas) : Handled cfg env c ready (c', out)
  | sync {c' : Catcher} {out : List CatcherOut} (kept : Kept c c')
      (said : ∀ o ∈ out, o.Said ready c.meas) :
      Handled cfg env c ready ((c'.startSync cfg env).1, out ++ (c'.startSync cfg env).2)

variable {cfg : CatcherConfig} {env : Surroundings} {c c' : Catcher} {ready : Prop}

theorem said_of_quiet {meas : RxMeasStat} {o : CatcherOut} (h : o.Said False meas) :
    o.Said ready meas := by
  cases o with
  | logSysinfo s m => exact h.1.elim
  | _ => exact h

theorem Handled.silent (kept : Kept c c') (hstate : c'.state = c.state)
    (hrach : c.state = .rach → ready) : Handled cfg env c ready (c', []) := by
  refine .stay kept ?_ ?_ fun _ ho => absurd ho List.not_mem_nil
  · exact fun hread => hstate ▸ hread
  · exact fun h => hrach (hstate ▸ h)

theorem Handled.prepend {r : Catcher × List CatcherOut} (h : Handled cfg env c ready r)
    {out : List CatcherOut} (hout : ∀ o ∈ out, o.Said False c.meas) :
    Handled cfg env c ready (r.1, out ++ r.2) := by
  cases h with
  | stay kept read rach said =>
    exact .stay kept read rach (List.forall_mem_append.2 ⟨hout, said⟩)
  | sync kept said =>
    rw [← List.append_assoc]
    refine .sync kept (List.forall_mem_append.2 ⟨fun o ho => ?_, said⟩)
    exact said_of_quiet (hout o ho)

theorem startRach_handled (kept : Kept c c') (hready : ready) :
    Handled cfg env c ready (startRach cfg env c') := by
  unfold startRach
  split
  · have hlog : ∀ o ∈ [CatcherOut.logSysinfo c'.sysinfo c'.meas], o.Said ready c.meas := by
      rw [List.forall_mem_singleton]
      exact ⟨hready, kept.meas⟩
    exact .sync kept hlog
  · refine .stay ⟨kept.pm, kept.pmIndex, kept.meas⟩ nofun (fun _ => hready) ?_
    rw [List.forall_mem_singleton]
    trivial

theorem taResult_handled (kept : Kept c c') (hready : ready) (ta : UInt8) :
    Handled cfg env c ready (taResult cfg env ta c') := by
  have hlog : ∀ o ∈ [CatcherOut.logSysinfo c'.sysinfo c'.meas], o.Said ready c.meas := by
    rw [List.forall_mem_singleton]
    exact ⟨hready, kept.meas⟩
  have hstopped : Kept c c'.stopTimer := ⟨kept.pm, kept.pmIndex, kept.meas⟩
  have hsync : Handled cfg env c ready ((c'.stopTimer.startSync cfg env).1,
      [.logSysinfo c'.sysinfo c'.meas] ++ (c'.stopTimer.startSync cfg env).2) :=
    .sync hstopped hlog
  unfold taResult
  refine hsync.prepend ?_
  split <;> simp [CatcherOut.Said]

theorem pchAgch_handled (kept : Kept c c') (hstate : c'.state = c.state) (hready : ready)
    (msg : Octets) : Handled cfg env c ready (c'.pchAgch cfg env msg) := by
  have hta : ∀ ta, Handled cfg env c ready (c'.taResult cfg env ta) :=
    taResult_handled kept hready
  have hstay : Handled cfg env c ready (c', []) := .silent kept hstate fun _ => hready
  unfold pchAgch immAss immAssExt immAssRej
  repeat' split
  all_goals first | exact hta _ | exact hstay

theorem newSysinfo_handled (kept : Kept c c') (hstate : c'.state = c.state) (hready : ready) :
    Handled cfg env c ready (newSysinfo cfg env c') := by
  have hkept : ∀ pending count, Kept c { c' with timerPending := pending, rachCount := count } :=
    fun _ _ => ⟨kept.pm, kept.pmIndex, kept.meas⟩
  unfold newSysinfo
  split
  · exact startRach_handled (hkept false 0) hready
  · exact .silent (hkept true _) hstate fun _ => hready

theorem bcch_handled (kept : Kept c c') (hstate : c'.state = c.state) (hready : ready)
    (msg : Octets) : Handled cfg env c ready (c'.bcch cfg env msg) := by
  unfold bcch
  cases c'.sysinfo.bcchDecode msg with
  | none => exact .silent kept hstate fun _ => hready
  | some s =>
    have hnew : Handled cfg env c ready (newSysinfo cfg env { c' with sysinfo := s }) :=
      newSysinfo_handled ⟨kept.pm, kept.pmIndex, kept.meas⟩ hstate hready
    refine hnew.prepend ?_
    split <;> simp [CatcherOut.Said]

/-- Only in the READ and the RACH state is a frame looked at. -/
theorem unitDataInd_handled (chan : Chan) (l3 : Octets) :
    Handled cfg env c (c.state = .read ∨ c.state = .rach) (c.unitDataInd cfg env chan l3) := by
  have kept : Kept c c := ⟨rfl, rfl, rfl⟩
  unfold unitDataInd
  split
  · exact .silent kept rfl Or.inr
  · have hready : c.state = .read ∨ c.state = .rach := by tauto
    cases chan with
    | bcch => exact bcch_handled kept rfl hready l3
    | pchAgch => exact pchAgch_handled kept rfl hready l3
    | other => exact .silent kept rfl Or.inr

/-- A frame is counted before it is looked at. -/
def counted (c : Catcher) (rxLevel : UInt8) : Catcher :=
  { c with meas := { frames := c.meas.frames + 1, rxlev := c.meas.rxlev + rxLevel.toUInt32 } }

theorem rxPhDataInd_handled (chan : Chan) (rxLevel : UInt8) (fireCrc : ℕ) (l3 : Octets) :
    Handled cfg env (c.counted rxLevel) (c.state = .read ∨ c.state = .rach)
      (c.rxPhDataInd cfg env chan rxLevel fireCrc l3) := by
  unfold rxPhDataInd
  dsimp only
  split
  · exact .silent ⟨rfl, rfl, rfl⟩ rfl Or.inr
  · exact unitDataInd_handled (c := c.counted rxLevel) chan l3

theorem timeoutCb_handled : Handled cfg env c (c.state = .rach) (c.timeoutCb cfg env) := by
  have kept : Kept c c := ⟨rfl, rfl, rfl⟩
  have hnil : ∀ o ∈ ([] : List CatcherOut), o.Said (c.state = .rach) c.meas := by simp
  unfold timeoutCb
  cases hstate : c.state with
  | read => exact .sync kept (hstate ▸ hnil)
  | rach => exact startRach_handled ⟨rfl, rfl, rfl⟩ rfl
  | pm => exact .silent kept rfl (hstate ▸ id)
  | sync => exact .silent kept rfl (hstate ▸ id)

end Catcher
end ImsiCatcher

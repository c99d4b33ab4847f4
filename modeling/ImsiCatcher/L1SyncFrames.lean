import ImsiCatcher.L1Sync

/-!
# One frame interrupt

What `l1_sync` does in one frame, put together: none of the callbacks calls the scheduler or
fails, so that the calls of the frame are made in the order of priority, and behind them the sets
of the multiframe tasks and of the one-shot events are scheduled.
-/

universe u v

namespace ImsiCatcher

theorem performAll_append {C : Type u} {τ : Type v} (perform : τ → TdmaOp C → ℤ × τ) (s : τ)
    (ops ops' : List (TdmaOp C)) :
    performAll perform s (ops ++ ops') =
      ((performAll perform (performAll perform s ops).1 ops').1,
        (performAll perform s ops).2 ++
          (performAll perform (performAll perform s ops).1 ops').2) := by
  induction ops generalizing s with
  | nil => rfl
  | cons op ops ih => rw [List.cons_append, performAll_cons, ih, performAll_cons]; rfl

/-! ### Callbacks that leave the scheduler alone -/

section Quiet
variable {C : Type u} {σ : Type v}

def TdmaSchedBucket.order (b : TdmaSchedBucket C) : List (TdmaSchedCall C) :=
  (List.range b.numItems).map fun i => (b.item (b.sort i)).toTdmaSchedCall

theorem TdmaSchedBucket.order_perm (b : TdmaSchedBucket C) : b.order.Perm b.calls := by
  have hperm := b.sort_sorts.perm.map fun k => (b.item k).toTdmaSchedCall
  rwa [List.map_map] at hperm

/-- Callbacks that do not call the scheduler and do not fail. -/
def Quiet (react : TdmaSchedCall C → σ → TdmaReaction C σ) : Prop :=
  ∀ call rest, (react call rest).ops = [] ∧ (react call rest).rc = 0

def TdmaScheduler.finish (s : TdmaScheduler C) : TdmaScheduler C :=
  s.setBucket s.curBucket (s.bucket s.curBucket).clear

variable {react : TdmaSchedCall C → σ → TdmaReaction C σ}

theorem TdmaScheduler.executeFrom_quiet (hquiet : Quiet react) (s : TdmaScheduler C) (rest : σ)
    {i left : ℕ} (hleft : i + left = tdmaschedNumCb) (hi : i ≤ (s.bucket s.curBucket).numItems) :
    s.executeFrom react (s.bucket s.curBucket).sort rest i left =
      { rc := (s.bucket s.curBucket).numItems
        sched := s.finish
        rest := ((s.bucket s.curBucket).order.drop i).foldl
          (fun rest call => (react call rest).rest) rest
        acts := ((s.bucket s.curBucket).order.drop i).map fun call => TdmaAct.called call 0 } := by
  have hroom := (s.bucket s.curBucket).numItems_le
  have hlen : (s.bucket s.curBucket).order.length = (s.bucket s.curBucket).numItems := by
    rw [TdmaSchedBucket.order, List.length_map, List.length_range]
  induction left generalizing rest i with
  | zero =>
    obtain rfl : i = (s.bucket s.curBucket).numItems := by omega
    rw [List.drop_eq_nil_of_le hlen.le]
    rfl
  | succ left ih =>
    unfold executeFrom
    split
    · rename_i hlt
      have hdrop : (s.bucket s.curBucket).order.drop i =
          ((s.bucket s.curBucket).item ((s.bucket s.curBucket).sort i)).toTdmaSchedCall ::
            (s.bucket s.curBucket).order.drop (i + 1) := by
        rw [List.drop_eq_getElem_cons (hlen ▸ hlt)]
        simp only [TdmaSchedBucket.order, List.getElem_map, List.getElem_range]
      obtain ⟨hops, hrc⟩ := hquiet
        ((s.bucket s.curBucket).item ((s.bucket s.curBucket).sort i)).toTdmaSchedCall rest
      simp only [hops, hrc, performAll, hdrop, ih _ (by omega : i + 1 + left = _) hlt]
      rfl
    · rename_i hge
      obtain rfl : i = (s.bucket s.curBucket).numItems := by omega
      rw [List.drop_eq_nil_of_le hlen.le]
      rfl

theorem TdmaScheduler.execute_quiet (hquiet : Quiet react) (s : TdmaScheduler C) (rest : σ) :
    s.execute react rest =
      { rc := (s.bucket s.curBucket).numItems
        sched := s.finish
        rest := (s.bucket s.curBucket).order.foldl (fun rest call => (react call rest).rest) rest
        acts := (s.bucket s.curBucket).order.map fun call => TdmaAct.called call 0 } :=
  s.executeFrom_quiet hquiet rest (Nat.zero_add _) (Nat.zero_le _)

end Quiet

/-! ### The multiframe tasks -/

def taskOps (fn : ℕ) (task : MframeTask) : List (TdmaOp L1sCb) :=
  ((schedSetForTask task).filter fun si =>
      (fn + scheduleAhead) % si.modulo = si.frameNr % si.modulo).map fun si =>
    TdmaOp.scheduleSet 1 nbSchedSet (task.id ||| (si.flags <<< (8 : UInt16)))

def mframeOps (tasks : MframeTask → Bool) (fn : ℕ) : List (TdmaOp L1sCb) :=
  ([.bcchNorm, .ccch, .ccchComb].filter tasks).flatMap (taskOps fn)

theorem mframeScheduleSet_eq (fn : ℕ) (task : MframeTask) (r : MframeRun) :
    (mframeScheduleSet fn r task).sched =
        (performAll TdmaScheduler.perform r.sched (taskOps fn task)).1 ∧
      (mframeScheduleSet fn r task).acts =
        r.acts ++ (performAll TdmaScheduler.perform r.sched (taskOps fn task)).2 := by
  unfold mframeScheduleSet taskOps
  generalize schedSetForTask task = items
  induction items generalizing r with
  | nil => exact ⟨rfl, (List.append_nil _).symm⟩
  | cons si items ih =>
    obtain ⟨hsched, hacts⟩ := ih (mframeScheduleItem fn task r si)
    rw [List.foldl_cons, hsched, hacts]
    unfold mframeScheduleItem
    by_cases hdue : (fn + scheduleAhead) % si.modulo = si.frameNr % si.modulo
    · rw [if_pos hdue, List.filter_cons_of_pos (by simpa using hdue), List.map_cons,
        performAll_cons]
      exact ⟨rfl, List.append_assoc _ _ _⟩
    · rw [if_neg hdue, List.filter_cons_of_neg (by simpa using hdue)]
      exact ⟨rfl, rfl⟩

theorem mframeSchedule_eq (m : MframeScheduler) (fn : ℕ) (s : TdmaScheduler L1sCb) :
    (m.schedule fn s).2.sched =
        (performAll TdmaScheduler.perform s (mframeOps (m.nextTasks fn) fn)).1 ∧
      (m.schedule fn s).2.acts =
        (performAll TdmaScheduler.perform s (mframeOps (m.nextTasks fn) fn)).2 := by
  have hfold : ∀ (tasks : List MframeTask) (r : MframeRun),
      (tasks.foldl (mframeScheduleSet fn) r).sched =
          (performAll TdmaScheduler.perform r.sched (tasks.flatMap (taskOps fn))).1 ∧
        (tasks.foldl (mframeScheduleSet fn) r).acts =
          r.acts ++ (performAll TdmaScheduler.perform r.sched (tasks.flatMap (taskOps fn))).2 := by
    intro tasks
    induction tasks with
    | nil => exact fun r => ⟨rfl, (List.append_nil _).symm⟩
    | cons task tasks ih =>
      intro r
      obtain ⟨hsched, hacts⟩ := ih (mframeScheduleSet fn r task)
      obtain ⟨hsched₁, hacts₁⟩ := mframeScheduleSet_eq fn task r
      rw [List.foldl_cons, List.flatMap_cons, performAll_append, hsched, hacts, hsched₁, hacts₁]
      exact ⟨rfl, List.append_assoc _ _ _⟩
  obtain ⟨hsched, hacts⟩ := hfold ([.bcchNorm, .ccch, .ccchComb].filter (m.nextTasks fn))
    { safeFn := m.safeFn, sched := s }
  exact ⟨hsched, hacts.trans (List.nil_append _)⟩

/-! ### One frame -/

theorem l1sReact_quiet : Quiet l1sReact := fun _ _ => ⟨rfl, rfl⟩

/-- No callback changes the time, what the DSP read or the serving cell. -/
theorem l1sCall_time (call : TdmaSchedCall L1sCb) (r : L1sRest) :
    (l1sCall call r).currentTime = r.currentTime ∧ (l1sCall call r).nextTime = r.nextTime ∧
      (l1sCall call r).dsp = r.dsp ∧ (l1sCall call r).servingCell = r.servingCell := by
  unfold l1sCall
  split
  · unfold l1sNbCmd
    split
    · exact ⟨rfl, rfl, rfl, rfl⟩
    · exact ⟨rfl, rfl, rfl, rfl⟩
  · unfold l1sNbResp
    repeat' split
    all_goals exact ⟨rfl, rfl, rfl, rfl⟩
  · unfold l1sTxRachResp
    exact ⟨rfl, rfl, rfl, rfl⟩
  · exact ⟨rfl, rfl, rfl, rfl⟩

theorem foldl_l1sCall_time (calls : List (TdmaSchedCall L1sCb)) (r : L1sRest) :
    (calls.foldl (fun r call => l1sCall call r) r).currentTime = r.currentTime ∧
      (calls.foldl (fun r call => l1sCall call r) r).nextTime = r.nextTime ∧
      (calls.foldl (fun r call => l1sCall call r) r).dsp = r.dsp ∧
      (calls.foldl (fun r call => l1sCall call r) r).servingCell = r.servingCell := by
  induction calls generalizing r with
  | nil => exact ⟨rfl, rfl, rfl, rfl⟩
  | cons call calls ih =>
    obtain ⟨hnow, hnext, hdsp, hcell⟩ := l1sCall_time call r
    rw [List.foldl_cons, ← hnow, ← hnext, ← hdsp, ← hcell]
    exact ih (l1sCall call r)

namespace L1s

/-- The events whose sets the next frame hands to the TDMA scheduler. -/
def dueEvts (l : L1s) : List (SchedGsmtimeEvent L1sCb) :=
  (l.gsmtime.execute l.rest.nextTime.fn).1

def opsAt (l : L1s) : List (TdmaOp L1sCb) :=
  mframeOps (l.mframeSched.nextTasks l.rest.nextTime.fn) l.rest.nextTime.fn ++
    l.dueEvts.map fun evt => TdmaOp.scheduleSet 1 evt.si evt.p3

def ready (l : L1s) : TdmaScheduler L1sCb :=
  (performAll TdmaScheduler.perform l.tdmaSched l.winInit).1

def order (l : L1s) : List (TdmaSchedCall L1sCb) := (l.ready.bucket l.ready.curBucket).order

def restBehind (l : L1s) (dsp : DspRead) : L1sRest :=
  l.order.foldl (fun r call => l1sCall call r) (l.restAt dsp)

theorem l1Sync_eq (l : L1s) (dsp : DspRead) : l.l1Sync dsp =
    ({ tdmaSched := (performAll TdmaScheduler.perform l.ready.finish l.opsAt).1.advance
       mframeSched := (l.mframeSched.schedule l.rest.nextTime.fn l.ready.finish).1
       gsmtime := (l.gsmtime.execute l.rest.nextTime.fn).2
       rest := l.restBehind dsp
       frameCtr := l.frameCtr + 1 },
      ((performAll TdmaScheduler.perform l.tdmaSched l.winInit).2 ++
          l.order.map fun call => TdmaAct.called call 0).map
        (fun act => (⟨l.frameCtr, false⟩, act)) ++
      (performAll TdmaScheduler.perform l.ready.finish l.opsAt).2.map
        fun act => (⟨l.frameCtr, true⟩, act)) := by
  have hready : (performAll TdmaScheduler.perform l.tdmaSched l.winInit).1 = l.ready := rfl
  have hexec : l.ready.execute l1sReact (l.restAt dsp) =
      { rc := (l.ready.bucket l.ready.curBucket).numItems
        sched := l.ready.finish
        rest := l.restBehind dsp
        acts := l.order.map fun call => TdmaAct.called call 0 } :=
    l.ready.execute_quiet l1sReact_quiet (l.restAt dsp)
  have hfn : (l.restBehind dsp).currentTime.fn = l.rest.nextTime.fn :=
    congrArg GsmTime.fn (foldl_l1sCall_time _ _).1
  obtain ⟨hsched, hacts⟩ := mframeSchedule_eq l.mframeSched l.rest.nextTime.fn l.ready.finish
  unfold opsAt
  rw [performAll_append, ← hsched, ← hacts]
  simp only [l1Sync, hready, hexec, hfn]
  rfl

theorem dueEvts_eq (l : L1s) : l.dueEvts = l.gsmtime.activeEvts.filter
    fun evt => evt.fn = l.rest.nextTime.fn + scheduleAhead :=
  congrArg Prod.fst (SchedGsmtime.executeEvts_eq _ l.gsmtime.ordered)

theorem activeEvts_frame (l : L1s) (dsp : DspRead) :
    (l.l1Sync dsp).1.gsmtime.activeEvts = l.gsmtime.activeEvts.filter
      fun evt => evt.fn ≠ l.rest.nextTime.fn + scheduleAhead := by
  rw [l1Sync_eq]
  exact congrArg Prod.snd (SchedGsmtime.executeEvts_eq _ l.gsmtime.ordered)

theorem times_frame (l : L1s) (dsp : DspRead) :
    (l.l1Sync dsp).1.rest.currentTime = l.rest.nextTime ∧
      (l.l1Sync dsp).1.rest.nextTime = l1sTimeInc l.rest.nextTime 1 := by
  rw [l1Sync_eq]
  exact ⟨(foldl_l1sCall_time l.order (l.restAt dsp)).1,
    (foldl_l1sCall_time l.order (l.restAt dsp)).2.1⟩

theorem frameCtr_frame (l : L1s) (dsp : DspRead) :
    (l.l1Sync dsp).1.frameCtr = l.frameCtr + 1 := by
  rw [l1Sync_eq]

end L1s

end ImsiCatcher

import ImsiCatcher.L1SyncFrames
import ImsiCatcher.TdmaBookings

/-!
# The RACH bursts of a run

A request waits in the list of one-shot events until two frames before its own; then its set goes
to the TDMA scheduler, whose callbacks give the command in the frame before and read the response
in the frame behind. A history beside the run keeps, for each request that was taken, the
interrupt that has to give the command. A run that loses nothing gives just these commands.
-/

universe u v

namespace ImsiCatcher

/-! ### What the calls of the interface book -/

section Bookings
variable {C : Type u}

def TdmaOp.bookedAt (t : TdmaTime) (f : ℕ) (op : TdmaOp C) : List (TdmaSchedCall C) :=
  op.bookings.filterMap fun b => if t.frame b.1 = f then some b.2 else none

theorem flatMap_booked_performAll {τ : Type v} (perform : τ → TdmaOp C → ℤ × τ) (s : τ)
    (ops : List (TdmaOp C)) (t : TdmaTime) (f : ℕ) :
    (performAll perform s ops).2.flatMap (TdmaAct.booked t f) =
      ops.flatMap (TdmaOp.bookedAt t f) := by
  induction ops generalizing s with
  | nil => rfl
  | cons op ops ih =>
    rw [performAll_cons, List.flatMap_cons, List.flatMap_cons, ih]
    rfl

theorem flatMap_booked_called (calls : List (TdmaSchedCall C)) (t : TdmaTime) (f : ℕ) :
    (calls.map fun call => TdmaAct.called call 0).flatMap (TdmaAct.booked t f) = [] := by
  rw [List.flatMap_map, List.flatMap_eq_nil_iff]
  exact fun _ _ => rfl

theorem countP_bookedAt_eq_zero {ops : List (TdmaOp C)} {P : TdmaSchedCall C → Bool}
    (h : ∀ op ∈ ops, ∀ b ∈ op.bookings, P b.2 = false) (t : TdmaTime) (f : ℕ) :
    (ops.flatMap (TdmaOp.bookedAt t f)).countP P = 0 := by
  rw [List.countP_eq_zero]
  intro call hcall
  obtain ⟨op, hop, hmem⟩ := List.mem_flatMap.1 hcall
  obtain ⟨b, hb, heq⟩ := List.mem_filterMap.1 hmem
  split at heq
  · rw [← Option.some.inj heq, h op hop b hb]
    exact Bool.false_ne_true
  · exact absurd heq (by simp)

end Bookings

/-- The callbacks of a RACH burst, with the number of frames behind its command. -/
def rachDelay : L1sCb → Option ℕ
  | .txRachCmd => some 0
  | .txRachResp => some 2
  | _ => none

theorem countP_rachSet {c : L1sCb} {d : ℕ} (hc : rachDelay c = some d) (k f : ℕ) :
    ((TdmaOp.scheduleSet 1 rachSchedSetUl 0).bookedAt ⟨k, true⟩ f).countP
        (fun call => call.cb = c) =
      if k + 1 + d = f then 1 else 0 := by
  have hbookings : (TdmaOp.scheduleSet 1 rachSchedSetUl 0).bookings =
      [(1, { cb := .txRachCmd, prio := 3, p1 := 1 }),
        (3, { cb := .txRachResp, prio := -4, p1 := 1 })] := rfl
  have hcmd : TdmaTime.frame ⟨k, true⟩ 1 = k + 1 := rfl
  have hresp : TdmaTime.frame ⟨k, true⟩ 3 = k + 3 := rfl
  rw [TdmaOp.bookedAt, hbookings, List.countP_filterMap]
  simp only [List.countP_cons, List.countP_nil, hcmd, hresp]
  cases c with
  | txRachCmd =>
    obtain rfl : 0 = d := Option.some.inj hc
    by_cases hf : k + 1 = f
    · simp [hf, show k + 3 ≠ f by omega]
    · by_cases hf' : k + 3 = f <;> simp [hf, hf']
  | txRachResp =>
    obtain rfl : 2 = d := Option.some.inj hc
    by_cases hf : k + 3 = f
    · simp [hf, show k + 1 ≠ f by omega]
    · by_cases hf' : k + 1 = f <;> simp [hf, hf']
  | _ => exact absurd hc (by simp [rachDelay])

theorem countP_rachSets {c : L1sCb} {d : ℕ} (hc : rachDelay c = some d)
    {evts : List (SchedGsmtimeEvent L1sCb)}
    (hevts : ∀ evt ∈ evts, evt.si = rachSchedSetUl ∧ evt.p3 = 0) (k f : ℕ) :
    ((evts.map fun evt => TdmaOp.scheduleSet 1 evt.si evt.p3).flatMap
        (TdmaOp.bookedAt ⟨k, true⟩ f)).countP (fun call => call.cb = c) =
      if k + 1 + d = f then evts.length else 0 := by
  induction evts with
  | nil => simp
  | cons evt evts ih =>
    rw [List.forall_mem_cons] at hevts
    rw [List.map_cons, List.flatMap_cons, List.countP_append, ih hevts.2, hevts.1.1, hevts.1.2,
      countP_rachSet hc, List.length_cons]
    split <;> omega

/-- Neither the windows nor the blocks of a task have a callback of the RACH. -/
theorem winInit_ne_rach {c : L1sCb} {d : ℕ} (hc : rachDelay c = some d) :
    ∀ op ∈ l1sWinInit, ∀ b ∈ op.bookings, decide (b.2.cb = c) = false := by
  have hnone : ∀ op ∈ l1sWinInit, ∀ b ∈ op.bookings, rachDelay b.2.cb = none := by decide
  intro op hop b hb
  rw [decide_eq_false_iff_not]
  rintro rfl
  exact Option.some_ne_none d (hc.symm.trans (hnone op hop b hb))

theorem mframeOps_ne_rach {c : L1sCb} {d : ℕ} (hc : rachDelay c = some d)
    (tasks : MframeTask → Bool) (fn : ℕ) :
    ∀ op ∈ mframeOps tasks fn, ∀ b ∈ op.bookings, decide (b.2.cb = c) = false := by
  intro op hop b hb
  obtain ⟨task, -, hop⟩ := List.mem_flatMap.1 hop
  obtain ⟨si, -, rfl⟩ := List.mem_map.1 hop
  have hnone : ∀ p3, ∀ b ∈ setBookings 1 p3 nbSchedSet, rachDelay b.2.cb = none := by
    intro p3
    simp [setBookings, nbSchedSet, rachDelay]
  rw [decide_eq_false_iff_not]
  rintro rfl
  exact Option.some_ne_none d (hc.symm.trans (hnone _ b hb))

/-! ### The frame interrupt drives the TDMA scheduler -/

namespace L1s

def tdma (l : L1s) : TdmaState (TdmaScheduler L1sCb) L1sRest := ⟨l.tdmaSched, l.rest, l.frameCtr⟩

/-- What an event is to the scheduler. -/
def tdmaEvents (l : L1s) : L1sEvent → List (TdmaEvent L1sCb L1sRest)
  | .frame dsp => [.rest (l.restAt dsp), .frame l.winInit l.opsAt]
  | e => [.rest (l.step e).1.rest]

theorem tdma_step (l : L1s) (e : L1sEvent) :
    (l.step e).1.tdma =
        ((TdmaScheduler.interface l1sReact).machine.run l.tdma (l.tdmaEvents e)).1 ∧
      (l.step e).2 =
        ((TdmaScheduler.interface l1sReact).machine.run l.tdma (l.tdmaEvents e)).2 := by
  cases e with
  | frame dsp =>
    have hexec := l.ready.execute_quiet l1sReact_quiet (l.restAt dsp)
    have hstep : l.step (.frame dsp) = l.l1Sync dsp := rfl
    rw [hstep, l1Sync_eq]
    simp only [tdma, tdmaEvents, Machine.run_cons, Machine.run_nil, TdmaInterface.machine,
      TdmaInterface.step, TdmaScheduler.interface, List.nil_append, List.append_nil]
    change _ ∧ _ = List.map _ (_ ++ (l.ready.execute l1sReact (l.restAt dsp)).acts) ++ _
    rw [← ready, hexec]
    exact ⟨rfl, rfl⟩
  | compl => exact ⟨rfl, rfl⟩
  | rachReq ra offset combined => exact ⟨rfl, rfl⟩
  | ccchModeReq ccchMode => exact ⟨rfl, rfl⟩

/-- A run that loses nothing makes the calls of each frame that were booked for it. -/
theorem calls_booked (fn : ℕ) (p : Phone) (es : List L1sEvent)
    (hkeeps : ∀ o ∈ (machine.run (onCell fn p) es).2, ¬o.2.Loses) {f : ℕ}
    (hf : f < (machine.run (onCell fn p) es).1.frameCtr) :
    (callsIn f (machine.run (onCell fn p) es).2).Perm
      (bookedFor f (machine.run (onCell fn p) es).2) := by
  obtain ⟨es', hend, houts⟩ := machine.refines_run (N := (TdmaScheduler.interface l1sReact).machine)
    (R := fun l s => l.tdma = s) (fun l s e hs => hs ▸ ⟨l.tdmaEvents e, l.tdma_step e⟩)
    (rfl : (onCell fn p).tdma = (onCell fn p).tdma) es
  have hrun : (TdmaScheduler.interface l1sReact).machine.run (onCell fn p).tdma es' =
      TdmaScheduler.run l1sReact .null (onCell fn p).rest es' := rfl
  rw [hrun] at hend houts
  rw [houts] at hkeeps ⊢
  obtain ⟨hframes, haccounted⟩ := TdmaScheduler.run_accounted l1sReact .null _ es' hkeeps
  refine haccounted.made f ?_
  rw [← hframes, ← hend]
  exact hf

/-- What a frame books for the RACH is what its events ask for. -/
theorem countP_bookedFor_frame (l : L1s) (dsp : DspRead) {c : L1sCb} {d : ℕ}
    (hc : rachDelay c = some d)
    (hevts : ∀ evt ∈ l.dueEvts, evt.si = rachSchedSetUl ∧ evt.p3 = 0) (f : ℕ) :
    (bookedFor f (l.l1Sync dsp).2).countP (fun call => call.cb = c) =
      if l.frameCtr + 1 + d = f then l.dueEvts.length else 0 := by
  have hwin : ∀ op ∈ l.winInit, ∀ b ∈ op.bookings, decide (b.2.cb = c) = false := by
    unfold winInit
    split
    · exact winInit_ne_rach hc
    · exact fun op hop => absurd hop List.not_mem_nil
  rw [l1Sync_eq, bookedFor_append, bookedFor_at, bookedFor_at, List.flatMap_append,
    flatMap_booked_performAll, flatMap_booked_called, List.append_nil, flatMap_booked_performAll,
    opsAt, List.flatMap_append, List.countP_append, List.countP_append,
    countP_bookedAt_eq_zero hwin, countP_bookedAt_eq_zero (mframeOps_ne_rach hc _ _),
    countP_rachSets hc hevts, Nat.zero_add, Nat.zero_add]

/-! ### The ledger of the requests -/

/-- A request that was taken: the frame that it was scheduled for, and the interrupt that has to
give the command. -/
structure Burst where
  fn : ℕ
  interrupt : ℕ
  combined : Bool
  deriving DecidableEq, Repr

def interruptBefore (l : L1s) (fn : ℕ) : ℕ := l.frameCtr + (fn - 1 - l.rest.nextTime.fn)

def bursts (l : L1s) (taken : List Burst) : L1sEvent → List Burst
  | .rachReq _ offset combined =>
    let fn := l1aRachFrame l.rest.currentTime offset (combined ≠ 0)
    if l.gsmtime.inactiveEvts = 0 then taken
    else taken ++ [⟨fn, l.interruptBefore fn, combined ≠ 0⟩]
  | _ => taken

/-- The offset of a request stays within its 16 bits, and its frame within the hyperframe. -/
def RequestInReach (l : L1s) : L1sEvent → Prop
  | .rachReq _ offset combined => offset.toNat + 30 < 65536 ∧
    l1aRachFrame l.rest.currentTime offset (combined ≠ 0) < gsmMaxFn
  | _ => True

instance (l : L1s) : (e : L1sEvent) → Decidable (l.RequestInReach e)
  | .rachReq .. => inferInstanceAs (Decidable (_ ∧ _))
  | .frame _ | .compl | .ccchModeReq _ => .isTrue trivial

def waiting (l : L1s) (j : ℕ) : ℕ :=
  l.gsmtime.activeEvts.countP fun evt => l.interruptBefore evt.fn = j

/-- Each request that was taken has its event in the list, or its set booked. -/
structure Ledger (fn : ℕ) (l : L1s) (taken : List Burst) (acts : List (TdmaTime × TdmaAct L1sCb)) :
    Prop where
  now : l.rest.currentTime = gsmFn2gsmtime ((fn + l.frameCtr) % gsmMaxFn)
  next : l.rest.nextTime = gsmFn2gsmtime ((fn + l.frameCtr + 1) % gsmMaxFn)
  evts : ∀ evt ∈ l.gsmtime.activeEvts, (evt.si = rachSchedSetUl ∧ evt.p3 = 0) ∧
    l.rest.nextTime.fn + 2 ≤ evt.fn ∧ evt.fn < gsmMaxFn
  frames : ∀ b ∈ taken, (fn + b.interrupt + 1) % gsmMaxFn + 1 = b.fn ∧
    (b.combined = true → RachSlot b.fn)
  booked : ∀ c d, rachDelay c = some d → ∀ j,
    (bookedFor (j + d) acts).countP (fun call => call.cb = c) + l.waiting j =
      taken.countP fun b => b.interrupt = j

namespace Ledger
variable {fn : ℕ} {l : L1s} {taken : List Burst} {acts : List (TdmaTime × TdmaAct L1sCb)}

theorem nextFn_frame (h : Ledger fn l taken acts) (dsp : DspRead) :
    (l.l1Sync dsp).1.rest.nextTime.fn = (l.rest.nextTime.fn + 1) % gsmMaxFn := by
  rw [(l.times_frame dsp).2]
  refine addModulo_one ?_
  rw [h.next]
  exact Nat.mod_lt _ (by decide)

/-- One frame on, the events of the frame have left the list, and the others wait for the same
interrupts. -/
theorem waiting_frame (h : Ledger fn l taken acts) (dsp : DspRead) (j : ℕ) :
    l.waiting j =
      (if l.frameCtr + 1 = j then l.dueEvts.length else 0) + (l.l1Sync dsp).1.waiting j := by
  have hdue : l.dueEvts.countP (fun evt => l.interruptBefore evt.fn = j) =
      if l.frameCtr + 1 = j then l.dueEvts.length else 0 := by
    have hnow : ∀ evt ∈ l.dueEvts, l.interruptBefore evt.fn = l.frameCtr + 1 := by
      intro evt hevt
      rw [dueEvts_eq, List.mem_filter, decide_eq_true_iff] at hevt
      have hfn : evt.fn = l.rest.nextTime.fn + 2 := hevt.2
      unfold interruptBefore
      omega
    split
    · rename_i heq
      rw [List.countP_eq_length]
      exact fun evt hevt => decide_eq_true ((hnow evt hevt).trans heq)
    · rename_i hne
      rw [List.countP_eq_zero]
      exact fun evt hevt hj => hne ((hnow evt hevt).symm.trans (of_decide_eq_true hj))
  have hrest : (l.l1Sync dsp).1.waiting j = (l.gsmtime.activeEvts.filter fun evt =>
      !decide (evt.fn = l.rest.nextTime.fn + scheduleAhead)).countP
        fun evt => l.interruptBefore evt.fn = j := by
    rw [waiting, activeEvts_frame]
    simp only [ne_eq, decide_not]
    refine List.countP_congr fun evt hevt => ?_
    rw [List.mem_filter, Bool.not_eq_true', decide_eq_false_iff_not] at hevt
    obtain ⟨-, hahead, hlast⟩ := h.evts evt hevt.1
    have hne : evt.fn ≠ l.rest.nextTime.fn + 2 := hevt.2
    have hnext := h.nextFn_frame dsp
    rw [Nat.mod_eq_of_lt (by omega)] at hnext
    have hsame : (l.l1Sync dsp).1.interruptBefore evt.fn = l.interruptBefore evt.fn := by
      unfold interruptBefore
      rw [hnext, frameCtr_frame]
      omega
    rw [hsame]
  rw [hrest, ← hdue, dueEvts_eq, waiting]
  exact List.countP_eq_countP_filter_add _ _ _

theorem frame (h : Ledger fn l taken acts) (dsp : DspRead) :
    Ledger fn (l.l1Sync dsp).1 taken (acts ++ (l.l1Sync dsp).2) where
  now := by
    rw [(l.times_frame dsp).1, frameCtr_frame]
    exact h.next
  next := by
    rw [(l.times_frame dsp).2, frameCtr_frame, h.next, l1sTimeInc_one (Nat.mod_lt _ (by decide)),
      Nat.mod_add_mod]
    rfl
  evts := by
    intro evt hevt
    rw [activeEvts_frame, List.mem_filter, decide_eq_true_iff] at hevt
    obtain ⟨hset, hahead, hlast⟩ := h.evts evt hevt.1
    have hne : evt.fn ≠ l.rest.nextTime.fn + 2 := hevt.2
    have hle := Nat.mod_le (l.rest.nextTime.fn + 1) gsmMaxFn
    refine ⟨hset, ?_, hlast⟩
    rw [h.nextFn_frame dsp]
    omega
  frames := h.frames
  booked := by
    intro c d hc j
    have hdue : ∀ evt ∈ l.dueEvts, evt.si = rachSchedSetUl ∧ evt.p3 = 0 := by
      intro evt hevt
      rw [dueEvts_eq] at hevt
      exact (h.evts evt (List.mem_filter.1 hevt).1).1
    have hbooked := h.booked c d hc j
    have hwaiting := h.waiting_frame dsp j
    have hiff : l.frameCtr + 1 + d = j + d ↔ l.frameCtr + 1 = j := by omega
    rw [bookedFor_append, List.countP_append, l.countP_bookedFor_frame dsp hc hdue]
    simp only [hiff]
    omega

/-- A request that is taken waits for the interrupt of the frame in front of its own. -/
theorem rachReq (h : Ledger fn l taken acts) {ra : UInt8} {offset : UInt16} {combined : UInt8}
    (hreq : l.RequestInReach (.rachReq ra offset combined)) :
    Ledger fn (l.l1aRachReq ra offset combined) (l.bursts taken (.rachReq ra offset combined))
      acts := by
  obtain ⟨hoffset, hlast⟩ := hreq
  have hsplit : l.rest.currentTime.Split := h.now ▸ ⟨Nat.mod_lt _ (by decide), rfl⟩
  have hahead := le_l1aRachFrame hsplit hoffset (combined ≠ 0)
  have hslot : decide (combined ≠ 0) = true →
      RachSlot (l1aRachFrame l.rest.currentTime offset (combined ≠ 0)) := by
    intro hcombined
    rw [hcombined]
    exact (l1aRachFrame_combined hsplit hoffset).1
  have hnow : l.rest.currentTime.fn = (fn + l.frameCtr) % 2715648 := congrArg GsmTime.fn h.now
  have hnext : l.rest.nextTime.fn = (fn + l.frameCtr + 1) % 2715648 := congrArg GsmTime.fn h.next
  simp only [l1aRachReq, bursts, SchedGsmtime.sched]
  generalize l1aRachFrame l.rest.currentTime offset (combined ≠ 0) = frame at *
  change frame < 2715648 at hlast
  by_cases hfull : l.gsmtime.inactiveEvts = 0
  · simp only [dif_pos hfull, if_pos hfull]
    exact ⟨h.now, h.next, h.evts, h.frames, h.booked⟩
  simp only [dif_neg hfull, if_neg hfull]
  have hbefore : l.interruptBefore frame = l.frameCtr + (frame - 1 - l.rest.nextTime.fn) := rfl
  refine ⟨h.now, h.next, fun evt hevt => ?_, fun b hb => ?_, fun c d hc j => ?_⟩
  · rcases List.mem_cons.1 ((insertEvt_perm _ _).subset hevt) with rfl | hold
    · refine ⟨⟨rfl, rfl⟩, ?_, hlast⟩
      change l.rest.nextTime.fn + 2 ≤ frame
      omega
    · exact h.evts evt hold
  · rcases List.mem_append.1 hb with hold | hnew
    · exact h.frames b hold
    · obtain rfl := List.mem_singleton.1 hnew
      refine ⟨?_, hslot⟩
      change (fn + l.interruptBefore frame + 1) % 2715648 + 1 = frame
      omega
  · have hwaiting := ((insertEvt_perm ⟨rachSchedSetUl, frame, 0⟩ l.gsmtime.activeEvts).countP_eq
      fun evt => decide (l.interruptBefore evt.fn = j)).trans List.countP_cons
    rw [List.countP_append, List.countP_singleton, ← h.booked c d hc j, Nat.add_assoc]
    exact congrArg _ hwaiting

theorem step (h : Ledger fn l taken acts) {e : L1sEvent} (he : l.RequestInReach e) :
    Ledger fn (l.step e).1 (l.bursts taken e) (acts ++ (l.step e).2) := by
  cases e with
  | frame dsp => exact h.frame dsp
  | compl => exact (List.append_nil acts).symm ▸ ⟨h.now, h.next, h.evts, h.frames, h.booked⟩
  | rachReq ra offset combined => exact (List.append_nil acts).symm ▸ h.rachReq he
  | ccchModeReq ccchMode =>
    exact (List.append_nil acts).symm ▸ ⟨h.now, h.next, h.evts, h.frames, h.booked⟩

theorem onCell {fn : ℕ} (hfn : fn < gsmMaxFn) (p : Phone) : Ledger fn (L1s.onCell fn p) [] [] where
  now := by
    rw [Nat.mod_eq_of_lt (by exact hfn)]
    rfl
  next := l1sTimeInc_one hfn
  evts := fun evt hevt => absurd hevt List.not_mem_nil
  frames := fun b hb => absurd hb List.not_mem_nil
  booked := fun _ _ _ _ => rfl

theorem run {fn : ℕ} (hfn : fn < gsmMaxFn) (p : Phone) {es : List L1sEvent}
    (hes : machine.Along RequestInReach (L1s.onCell fn p) es) :
    Ledger fn (machine.run (L1s.onCell fn p) es).1
      ((machine.withHistory bursts).run (L1s.onCell fn p, []) es).1.2
      (machine.run (L1s.onCell fn p) es).2 := by
  obtain ⟨hstate, houts⟩ := machine.withHistory_run bursts (L1s.onCell fn p) [] es
  rw [hstate, houts]
  have hrun := (machine.withHistory bursts).history_along
    (P := fun s e => s.1.RequestInReach e) (J := fun s acts => Ledger fn s.1 s.2 acts)
    (fun _ _ _ hs he => hs.step he) (onCell hfn p) (machine.withHistory_along bursts hes [])
  rwa [List.nil_append] at hrun

end Ledger

end L1s

def rachBursts (fn : ℕ) (p : Phone) (es : List L1sEvent) : List L1s.Burst :=
  ((L1s.machine.withHistory L1s.bursts).run (L1s.onCell fn p, []) es).1.2

/-- In a run on a cell in which no bucket of the TDMA scheduler overflows, with requests whose frames
are within reach, the phone gives in each frame just as many commands for a RACH burst as requests
were taken for the frame behind it, and reads as many responses two frames later. On a combined
CCCH these frames are RACH slots. -/
theorem rach_bursts_sent {fn : ℕ} (hfn : fn < gsmMaxFn) (p : Phone) (es : List L1sEvent)
    (hes : L1s.machine.Along L1s.RequestInReach (L1s.onCell fn p) es)
    (hkeeps : ∀ o ∈ (L1s.machine.run (L1s.onCell fn p) es).2, ¬o.2.Loses) :
    (∀ b ∈ rachBursts fn p es, (fn + b.interrupt + 1) % gsmMaxFn + 1 = b.fn ∧
      (b.combined = true → RachSlot b.fn)) ∧
    (∀ j, j < (L1s.machine.run (L1s.onCell fn p) es).1.frameCtr →
      (callsIn j (L1s.machine.run (L1s.onCell fn p) es).2).countP
          (fun call => call.cb = .txRachCmd) =
        (rachBursts fn p es).countP fun b => b.interrupt = j) ∧
    ∀ j, j + 2 < (L1s.machine.run (L1s.onCell fn p) es).1.frameCtr →
      (callsIn (j + 2) (L1s.machine.run (L1s.onCell fn p) es).2).countP
          (fun call => call.cb = .txRachResp) =
        (rachBursts fn p es).countP fun b => b.interrupt = j := by
  have hledger := L1s.Ledger.run hfn p hes
  have hcalls : ∀ c d, rachDelay c = some d → ∀ j,
      j + d < (L1s.machine.run (L1s.onCell fn p) es).1.frameCtr →
      (callsIn (j + d) (L1s.machine.run (L1s.onCell fn p) es).2).countP (fun call => call.cb = c) =
        (rachBursts fn p es).countP fun b => b.interrupt = j := by
    intro c d hc j hj
    rw [(L1s.calls_booked fn p es hkeeps hj).countP_eq, rachBursts, ← hledger.booked c d hc j]
    -- nothing waits for an interrupt that is over
    have hover : L1s.waiting (L1s.machine.run (L1s.onCell fn p) es).1 j = 0 := by
      rw [L1s.waiting, List.countP_eq_zero]
      intro evt hevt heq
      obtain ⟨-, hahead, -⟩ := hledger.evts evt hevt
      have hj' := of_decide_eq_true heq
      unfold L1s.interruptBefore at hj'
      omega
    rw [hover, Nat.add_zero]
  exact ⟨hledger.frames, hcalls .txRachCmd 0 rfl, hcalls .txRachResp 2 rfl⟩

def rachRun : List L1sEvent :=
  [.rachReq 0x17 0 2, .rachReq 0x25 1 2] ++ List.replicate 5 (.frame
    { taskD := 0, burstD := 0,
      block := { fn := 0, rxLevel := 0, snr := 0, numBiterr := 0, fireCrc := 0
                 data := List.replicate 23 0, length_data := rfl } })

theorem rach_bursts_sent_twice :
    rachBursts 118 {} rachRun = [⟨121, 1, true⟩, ⟨122, 2, true⟩] ∧
    (callsIn 1 (L1s.machine.run (L1s.onCell 118 {}) rachRun).2).countP
        (fun call => call.cb = .txRachCmd) =
      (rachBursts 118 {} rachRun).countP fun b => b.interrupt = 1 :=
  ⟨by decide +kernel,
    (rach_bursts_sent (by decide) {} rachRun (by decide +kernel) (by decide +kernel)).2.1 1
      (by decide +kernel)⟩

end ImsiCatcher

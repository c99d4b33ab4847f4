import ImsiCatcher.L1SyncFrames

/-!
# The frame interrupt does what the phone does

The phone counts the sets of normal bursts and of the RACH that are in its scheduler, and lets each
of them end at any time. The frame interrupt keeps them as calls in the ring of buckets, in the
frames that the multiframe tasks and the one-shot events ask for. Whatever the DSP reads, it sends
to layer 2 what the phone sends in some order of its callbacks, with the same requests.
-/

universe u v

namespace ImsiCatcher

/-! ### The calls that are in the ring -/

section Pending
variable {C : Type u}

namespace TdmaScheduler

def pending (s : TdmaScheduler C) : List (TdmaSchedCall C) :=
  (List.range tdmaschedNumFrames).flatMap fun nr => (s.bucket nr).calls

/-- The calls of one bucket, and those of all the others. -/
theorem pending_split (s : TdmaScheduler C) {nr : ℕ} (hnr : nr < tdmaschedNumFrames) :
    ∃ others, s.pending.Perm ((s.bucket nr).calls ++ others) ∧
      ∀ b, (s.setBucket nr b).pending.Perm (b.calls ++ others) := by
  have hperm := List.perm_cons_erase (List.mem_range.2 hnr)
  refine ⟨((List.range tdmaschedNumFrames).erase nr).flatMap fun k => (s.bucket k).calls,
    hperm.flatMap_right _, fun b => (hperm.flatMap_right _).trans ?_⟩
  have hothers : ∀ k ∈ (List.range tdmaschedNumFrames).erase nr,
      ((s.setBucket nr b).bucket k).calls = (s.bucket k).calls := by
    intro k hk
    have hne := ((List.nodup_range.mem_erase_iff).1 hk).1
    exact congrArg TdmaSchedBucket.calls (if_neg hne)
  have hthis : ((s.setBucket nr b).bucket nr).calls = b.calls :=
    congrArg TdmaSchedBucket.calls (if_pos rfl)
  rw [List.flatMap_cons, hthis, List.flatMap_congr hothers]

theorem pending_push (s : TdmaScheduler C) (offset : UInt8) (it : TdmaSchedItem C)
    (h : (s.bucket (s.wrapBucket offset)).numItems < tdmaschedNumCb) :
    (s.setBucket (s.wrapBucket offset) ((s.bucket (s.wrapBucket offset)).push it h)).pending.Perm
      (it.toTdmaSchedCall :: s.pending) := by
  obtain ⟨others, hbefore, hafter⟩ := s.pending_split
    (Nat.mod_lt _ (by decide) : s.wrapBucket offset < tdmaschedNumFrames)
  refine (hafter _).trans ?_
  rw [TdmaSchedBucket.calls_push, List.append_assoc]
  exact List.perm_middle.trans (hbefore.symm.cons _)

theorem pending_finish (s : TdmaScheduler C) :
    s.pending.Perm ((s.bucket s.curBucket).order ++ s.finish.pending) := by
  obtain ⟨others, hbefore, hafter⟩ := s.pending_split s.curBucket_lt
  have hcleared : s.finish.pending.Perm others := hafter _
  exact hbefore.trans ((TdmaSchedBucket.order_perm _).symm.append hcleared.symm)

/-- A set comes in up to the first call that finds its bucket full. -/
theorem pending_scheduleSetFrom (s : TdmaScheduler C) (offset : UInt8) (p3 : UInt16) (j : ℕ)
    (set : TdmaItemSet C) :
    ∃ booked, booked.Sublist ((setBookings offset p3 set).map (·.2)) ∧
      (s.scheduleSetFrom offset p3 j set).2.pending.Perm (booked ++ s.pending) := by
  induction set generalizing s offset j with
  | nil => exact ⟨[], List.nil_sublist _, List.Perm.refl _⟩
  | cons entry set ih =>
    cases entry with
    | none => exact ih s (offset + 1) (j + 1)
    | some item =>
      simp only [scheduleSetFrom]
      split
      · rename_i hroom
        obtain ⟨booked, hsub, hperm⟩ := ih (s.setBucket (s.wrapBucket offset)
          ((s.bucket (s.wrapBucket offset)).push { item with p3 := p3 } hroom)) offset j
        refine ⟨_, hsub.cons_cons _, hperm.trans ?_⟩
        exact ((s.pending_push offset { item with p3 := p3 } hroom).append_left booked).trans
          List.perm_middle
      · exact ⟨[], List.nil_sublist _, List.Perm.refl _⟩

theorem pending_perform (s : TdmaScheduler C) {op : TdmaOp C} (hop : op ≠ .reset) :
    ∃ booked, booked.Sublist (op.bookings.map (·.2)) ∧
      (s.perform op).2.pending.Perm (booked ++ s.pending) := by
  cases op with
  | schedule offset call =>
    simp only [perform, schedule]
    split
    · rename_i hroom
      exact ⟨[call], List.Sublist.refl _, s.pending_push offset _ hroom⟩
    · exact ⟨[], List.nil_sublist _, List.Perm.refl _⟩
  | scheduleSet offset set p3 => exact s.pending_scheduleSetFrom offset p3 0 set
  | reset => exact absurd rfl hop

end TdmaScheduler

end Pending

/-! ### One call -/

def Phone.callbacks : Machine Phone PhoneEvent Octets := ⟨Phone.step⟩

def endsBlock (task : MframeTask) (call : TdmaSchedCall L1sCb) : Bool :=
  call.cb = .nbResp ∧ call.p2 = 3 ∧ call.p3 = task.id

def endsRach (call : TdmaSchedCall L1sCb) : Bool := call.cb = .txRachResp

structure Phone.HasSets (p : Phone) (calls : List (TdmaSchedCall L1sCb)) : Prop where
  nb : ∀ task, calls.countP (endsBlock task) ≤ p.nbSets task
  rach : calls.countP endsRach ≤ p.rachSets
  known : ∀ call ∈ calls, call.cb = .nbResp → ∃ task : MframeTask, call.p3 = task.id

/-- What the phone keeps as the frame interrupt does, with the tasks that are enabled and the
number of RACH bursts that wait. -/
structure L1sRest.Shows (r : L1sRest) (tasks : MframeTask → Bool) (events : ℕ) (p : Phone) :
    Prop where
  servingCell : p.servingCell = r.servingCell
  rachRa : p.rachRa = r.rachRa
  lastRach : p.lastRach = r.lastRach
  complRach : p.complRach = r.complRach
  mframe : p.mframe = tasks
  rachEvents : p.rachEvents = events
  idle : p.tdma = [] ∧ p.complFb = false

namespace Phone.HasSets
variable {p : Phone} {calls calls' : List (TdmaSchedCall L1sCb)}

theorem perm (h : p.HasSets calls) (hperm : calls.Perm calls') : p.HasSets calls' where
  nb := fun task => hperm.countP_eq (endsBlock task) ▸ h.nb task
  rach := hperm.countP_eq endsRach ▸ h.rach
  known := fun call hcall => h.known call (hperm.mem_iff.2 hcall)

theorem tail {call : TdmaSchedCall L1sCb} (h : p.HasSets (call :: calls)) : p.HasSets calls where
  nb := fun task => ((List.sublist_cons_self call calls).countP_le).trans (h.nb task)
  rach := ((List.sublist_cons_self call calls).countP_le).trans h.rach
  known := fun c hc => h.known c (List.mem_cons_of_mem _ hc)

end Phone.HasSets

section Calls
variable {r : L1sRest} {tasks : MframeTask → Bool} {events : ℕ} {p : Phone}
  {others : List (TdmaSchedCall L1sCb)}

def Followed (p : Phone) (r r' : L1sRest) (tasks : MframeTask → Bool) (events : ℕ)
    (calls : List (TdmaSchedCall L1sCb)) : Prop :=
  ∃ msgs, r'.forL2 = r.forL2 ++ msgs ∧
    Phone.callbacks.Reaches p msgs fun p' => r'.Shows tasks events p' ∧ p'.HasSets calls

theorem Followed.silent {r' : L1sRest} (hr : r'.Shows tasks events p) (hs : p.HasSets others)
    (hmsgs : r'.forL2 = r.forL2) : Followed p r r' tasks events others :=
  ⟨[], by rw [hmsgs, List.append_nil], .here ⟨hr, hs⟩⟩

theorem task2chanNr_eq (task : MframeTask) :
    mframeTask2chanNr task.id.toUInt8 0 = Phone.task2chanNr task := by
  cases task <;> decide

theorem fnBefore_lt (fn frames : ℕ) : fnBefore fn frames < 4294967296 := Nat.mod_lt _ (by decide)

/-- The last response of a block sends the block, or loses it. -/
theorem nbResp_followed {call : TdmaSchedCall L1sCb} (hcb : call.cb = .nbResp)
    (hr : r.Shows tasks events p) (hs : p.HasSets (call :: others)) :
    Followed p r (l1sNbResp call.p2 call.p3 r) tasks events others := by
  unfold l1sNbResp
  split
  · exact .silent hr hs.tail rfl
  rename_i dsp hdsp
  split
  · exact .silent hr hs.tail rfl
  split
  · exact .silent hr hs.tail rfl
  rename_i hburst
  split
  swap
  · exact .silent hr hs.tail rfl
  rename_i hlast
  split
  · obtain ⟨task, htask⟩ := hs.known call List.mem_cons_self hcb
    have hends : endsBlock task call = true := by
      simp [endsBlock, hcb, htask, ← not_not.1 hburst, hlast]
    have hcount := hs.nb task
    rw [List.countP_cons_of_pos hends] at hcount
    have hstep : ∀ b, p.step (.nbResp task b) =
        ({ p with nbSets := fun t => if t = task then p.nbSets t - 1 else p.nbSets t },
          p.l1sNbResp task b) := fun b => if_pos (Nat.lt_of_lt_of_le (Nat.succ_pos _) hcount)
    refine ⟨_, rfl, .of_step (.nbResp task { dsp.block with
      fn := UInt32.ofNat (fnBefore r.currentTime.fn 4) }) ?_ ?_⟩
    · change (p.step _).2 = _
      rw [hstep, Phone.l1sNbResp, hr.servingCell, htask, task2chanNr_eq, UInt32.toNat_ofNat',
        Nat.mod_eq_of_lt (fnBefore_lt _ _)]
    · change L1sRest.Shows _ _ _ (p.step _).1 ∧ (p.step _).1.HasSets others
      rw [hstep]
      refine ⟨⟨hr.servingCell, hr.rachRa, hr.lastRach, hr.complRach, hr.mframe, hr.rachEvents,
        hr.idle⟩, fun t => ?_, hs.tail.rach, hs.tail.known⟩
      change _ ≤ if t = task then p.nbSets t - 1 else p.nbSets t
      split
      · rename_i ht
        rw [ht]
        omega
      · exact hs.tail.nb t
  · exact .silent ⟨hr.servingCell, hr.rachRa, hr.lastRach, hr.complRach, hr.mframe, hr.rachEvents,
      hr.idle⟩ hs.tail rfl

/-- The response of a RACH burst is that of a set that the phone has. -/
theorem txRachResp_followed {call : TdmaSchedCall L1sCb} (hcb : call.cb = .txRachResp)
    (hr : r.Shows tasks events p) (hs : p.HasSets (call :: others)) :
    Followed p r (l1sTxRachResp r) tasks events others := by
  have hends : endsRach call = true := decide_eq_true hcb
  have hcount := hs.rach
  rw [List.countP_cons_of_pos hends] at hcount
  have hstep : ∀ fn, p.step (.rachResp fn) = (p.l1sTxRachResp fn, []) :=
    fun fn => if_pos (Nat.lt_of_lt_of_le (Nat.succ_pos _) hcount)
  obtain ⟨fn, hresp⟩ : ∃ fn, l1sTxRachResp r =
      { r with lastRach := { fn := fn, bandArfcn := r.servingCell.arfcn }, complRach := true } :=
    ⟨_, rfl⟩
  rw [hresp]
  refine ⟨[], (List.append_nil _).symm, .of_step (.rachResp fn) ?_ ?_⟩
  · exact congrArg Prod.snd (hstep fn)
  · change L1sRest.Shows _ _ _ (p.step _).1 ∧ (p.step _).1.HasSets others
    rw [hstep, Phone.l1sTxRachResp, hr.servingCell]
    exact ⟨⟨rfl, hr.rachRa, rfl, rfl, hr.mframe, hr.rachEvents, hr.idle⟩,
      hs.tail.nb, Nat.le_sub_one_of_lt hcount, hs.tail.known⟩

theorem call_followed {call : TdmaSchedCall L1sCb} (hr : r.Shows tasks events p)
    (hs : p.HasSets (call :: others)) : Followed p r (l1sCall call r) tasks events others := by
  unfold l1sCall
  split
  · unfold l1sNbCmd
    split
    · exact .silent ⟨hr.servingCell, hr.rachRa, hr.lastRach, hr.complRach, hr.mframe,
        hr.rachEvents, hr.idle⟩ hs.tail rfl
    · exact .silent hr hs.tail rfl
  · rename_i hcb
    exact nbResp_followed hcb hr hs
  · rename_i hcb
    exact txRachResp_followed hcb hr hs
  · exact .silent hr hs.tail rfl

theorem calls_followed {calls : List (TdmaSchedCall L1sCb)} (hr : r.Shows tasks events p)
    (hs : p.HasSets (calls ++ others)) :
    Followed p r (calls.foldl (fun r call => l1sCall call r) r) tasks events others := by
  induction calls generalizing r p with
  | nil => exact .silent hr hs rfl
  | cons call calls ih =>
    obtain ⟨msgs, hmsgs, hreaches⟩ := call_followed hr hs
    obtain ⟨es, hout, hshows, hsets⟩ := hreaches
    obtain ⟨msgs', hmsgs', hreaches'⟩ := ih hshows hsets
    refine ⟨msgs ++ msgs', ?_, .bind ⟨es, hout, rfl⟩ ?_⟩
    · rw [List.foldl_cons, hmsgs', hmsgs, List.append_assoc]
    · rintro p' rfl
      exact hreaches'

end Calls

/-! ### What is scheduled around the calls -/

def nbOp (task : MframeTask) : TdmaOp L1sCb := .scheduleSet 1 nbSchedSet task.id

theorem mem_mframeOps {tasks : MframeTask → Bool} {fn : ℕ} {op : TdmaOp L1sCb}
    (hop : op ∈ mframeOps tasks fn) : ∃ task, tasks task = true ∧ op = nbOp task := by
  obtain ⟨task, htask, hop⟩ := List.mem_flatMap.1 hop
  obtain ⟨si, hsi, rfl⟩ := List.mem_map.1 hop
  have hflags : ∀ si ∈ schedSetForTask task, si.flags = 0 := by cases task <;> decide
  refine ⟨task, (List.mem_filter.1 htask).2, ?_⟩
  rw [hflags si (List.mem_filter.1 hsi).1, nbOp]
  cases task <;> rfl

/-- The tasks that a frame schedules are enabled. -/
theorem MframeScheduler.enabled_of_nextTasks {m : MframeScheduler} {fn : ℕ} {task : MframeTask}
    (h : m.nextTasks fn task = true) : m.tasksTgt task = true := by
  unfold nextTasks at h
  split at h
  · exact h
  · exact (Bool.and_eq_true_iff.1 h).2

section Ops
variable {r : L1sRest} {tasks : MframeTask → Bool} {events : ℕ} {p : Phone}
  {s : TdmaScheduler L1sCb}

/-- The phone has room for what comes in. -/
theorem Phone.HasSets.book {p' : Phone} {calls booked bookings : List (TdmaSchedCall L1sCb)}
    (h : p.HasSets calls) (hsub : booked.Sublist bookings)
    (hnb : ∀ task, p.nbSets task + bookings.countP (endsBlock task) ≤ p'.nbSets task)
    (hrach : p.rachSets + bookings.countP endsRach ≤ p'.rachSets)
    (hknown : ∀ call ∈ bookings, call.cb = .nbResp → ∃ task : MframeTask, call.p3 = task.id) :
    p'.HasSets (booked ++ calls) where
  nb := by
    intro task
    have hbooked := hsub.countP_le (p := endsBlock task)
    have hcalls := h.nb task
    have hroom := hnb task
    rw [List.countP_append]
    omega
  rach := by
    have hbooked := hsub.countP_le (p := endsRach)
    have hcalls := h.rach
    rw [List.countP_append]
    omega
  known := by
    intro call hcall
    rcases List.mem_append.1 hcall with hbooked | hcalls
    · exact hknown call (hsub.subset hbooked)
    · exact h.known call hcalls

theorem winOps_followed {ops : List (TdmaOp L1sCb)} (hops : ∀ op ∈ ops, op ∈ l1sWinInit)
    (hs : p.HasSets s.pending) :
    p.HasSets (performAll TdmaScheduler.perform s ops).1.pending := by
  have hreset : ∀ op ∈ l1sWinInit, op ≠ .reset := by decide
  have hrach : ∀ op ∈ l1sWinInit, (op.bookings.map (·.2)).countP endsRach = 0 := by decide
  have hnb : ∀ task, ∀ op ∈ l1sWinInit,
      (op.bookings.map (·.2)).countP (endsBlock task) = 0 := by
    intro task
    cases task <;> decide
  have hknown : ∀ op ∈ l1sWinInit, ∀ call ∈ op.bookings.map (·.2), call.cb ≠ .nbResp := by decide
  induction ops generalizing s with
  | nil => exact hs
  | cons op ops ih =>
    rw [List.forall_mem_cons] at hops
    obtain ⟨booked, hsub, hperm⟩ := s.pending_perform (hreset op hops.1)
    rw [performAll_cons]
    refine ih hops.2 ((hs.book hsub (fun task => ?_) ?_ ?_).perm hperm.symm)
    · rw [hnb task op hops.1]
      exact le_rfl
    · rw [hrach op hops.1]
      exact le_rfl
    · exact fun call hcall hcb => absurd hcb (hknown op hops.1 call hcall)

/-- A block that is scheduled is a set of its task. -/
theorem nbOps_followed {ops : List (TdmaOp L1sCb)}
    (hops : ∀ op ∈ ops, ∃ task, tasks task = true ∧ op = nbOp task)
    (hr : r.Shows tasks events p) (hs : p.HasSets s.pending) :
    Phone.callbacks.Reaches p [] fun p' => r.Shows tasks events p' ∧
      p'.HasSets (performAll TdmaScheduler.perform s ops).1.pending := by
  have hnb : ∀ task task' : MframeTask,
      ((setBookings 1 task.id nbSchedSet).map (·.2)).countP (endsBlock task') =
      if task' = task then 1 else 0 := by
    intro task task'
    cases task <;> cases task' <;> decide
  have hrach : ∀ task : MframeTask,
      ((setBookings 1 task.id nbSchedSet).map (·.2)).countP endsRach = 0 := by
    intro task
    cases task <;> decide
  have hknown : ∀ task : MframeTask,
      ∀ call ∈ (setBookings 1 task.id nbSchedSet).map (·.2), call.p3 = task.id := by
    intro task
    cases task <;> decide
  induction ops generalizing p s with
  | nil => exact .here ⟨hr, hs⟩
  | cons op ops ih =>
    rw [List.forall_mem_cons] at hops
    obtain ⟨⟨task, htask, rfl⟩, hops⟩ := hops
    obtain ⟨booked, hsub, hperm⟩ := s.pending_scheduleSetFrom 1 task.id 0 nbSchedSet
    have hstep : Phone.callbacks.step p (.mframeSchedule task) =
        ({ p with nbSets := fun t => if t = task then p.nbSets t + 1 else p.nbSets t }, []) := by
      change (p.mframeSchedule task, []) = _
      rw [Phone.mframeSchedule, if_pos (hr.mframe ▸ htask)]
    rw [performAll_cons]
    have hreaches := Machine.Reaches.cons (M := Phone.callbacks) hstep (ih hops
      ⟨hr.servingCell, hr.rachRa, hr.lastRach, hr.complRach, hr.mframe, hr.rachEvents, hr.idle⟩
      ((hs.book hsub (fun t => ?_) ?_ fun call hcall _ => ⟨task, hknown task call hcall⟩).perm
        hperm.symm))
    · exact hreaches
    · rw [hnb]
      dsimp only
      split <;> rfl
    · rw [hrach]
      exact le_rfl

/-- A RACH set that is scheduled has left the list of events. -/
theorem rachOps_followed {evts : List (SchedGsmtimeEvent L1sCb)}
    (hevts : ∀ evt ∈ evts, evt.si = rachSchedSetUl ∧ evt.p3 = 0)
    (hr : r.Shows tasks (evts.length + events) p) (hs : p.HasSets s.pending) :
    Phone.callbacks.Reaches p [] fun p' => r.Shows tasks events p' ∧
      p'.HasSets (performAll TdmaScheduler.perform s
        (evts.map fun evt => TdmaOp.scheduleSet 1 evt.si evt.p3)).1.pending := by
  have hnb : ∀ task, ((setBookings 1 0 rachSchedSetUl).map (·.2)).countP
      (endsBlock task) = 0 := by
    intro task
    cases task <;> decide
  have hrach : ((setBookings 1 0 rachSchedSetUl).map (·.2)).countP endsRach = 1 := by
    decide
  have hknown : ∀ call ∈ (setBookings 1 0 rachSchedSetUl).map (·.2),
      call.cb ≠ .nbResp := by decide
  induction evts generalizing p s with
  | nil => exact .here ⟨(Nat.zero_add events) ▸ hr, hs⟩
  | cons evt evts ih =>
    rw [List.forall_mem_cons] at hevts
    obtain ⟨⟨hsi, hp3⟩, hevts⟩ := hevts
    rw [List.map_cons, performAll_cons, hsi, hp3]
    obtain ⟨booked, hsub, hperm⟩ := s.pending_scheduleSetFrom 1 0 0 rachSchedSetUl
    have hwaits : p.rachEvents = evts.length + events + 1 := by
      rw [hr.rachEvents, List.length_cons]
      omega
    have hstep : Phone.callbacks.step p .schedGsmtimeExecute =
        ({ p with rachEvents := p.rachEvents - 1, rachSets := p.rachSets + 1 }, []) := by
      change (p.schedGsmtimeExecute, []) = _
      rw [Phone.schedGsmtimeExecute, if_pos (by omega)]
    have hreaches := Machine.Reaches.cons (M := Phone.callbacks) hstep (ih hevts
      ⟨hr.servingCell, hr.rachRa, hr.lastRach, hr.complRach, hr.mframe, ?_, hr.idle⟩
      ((hs.book hsub (fun task => ?_) ?_ fun call hcall hcb => absurd hcb (hknown call hcall)).perm
        hperm.symm))
    · exact hreaches
    · exact Nat.sub_eq_of_eq_add hwaits
    · rw [hnb]
      exact le_rfl
    · rw [hrach]

end Ops

/-! ### One frame, and a run -/

namespace L1s

structure ShownBy (l : L1s) (p : Phone) : Prop where
  rest : l.rest.Shows l.mframeSched.tasksTgt l.gsmtime.activeEvts.length p
  sets : p.HasSets l.tdmaSched.pending
  evts : ∀ evt ∈ l.gsmtime.activeEvts, evt.si = rachSchedSetUl ∧ evt.p3 = 0

theorem length_activeEvts_frame (l : L1s) (dsp : DspRead) :
    l.dueEvts.length + (l.l1Sync dsp).1.gsmtime.activeEvts.length =
      l.gsmtime.activeEvts.length := by
  have hsplit := List.length_eq_length_filter_add (l := l.gsmtime.activeEvts)
    fun evt => decide (evt.fn = l.rest.nextTime.fn + scheduleAhead)
  rw [dueEvts_eq, activeEvts_frame]
  simp only [ne_eq, decide_not]
  exact hsplit.symm

theorem frame_followed {l : L1s} {p : Phone} (h : l.ShownBy p) (dsp : DspRead) :
    ∃ msgs, (l.l1Sync dsp).1.rest.forL2 = l.rest.forL2 ++ msgs ∧
      Phone.callbacks.Reaches p msgs (l.l1Sync dsp).1.ShownBy := by
  have hready : p.HasSets l.ready.pending := by
    refine winOps_followed (fun op hop => ?_) h.sets
    unfold winInit at hop
    split at hop
    · exact hop
    · exact absurd hop List.not_mem_nil
  have hcells : (l.restAt dsp).Shows l.mframeSched.tasksTgt l.gsmtime.activeEvts.length p :=
    ⟨h.rest.servingCell, h.rest.rachRa, h.rest.lastRach, h.rest.complRach, h.rest.mframe,
      h.rest.rachEvents, h.rest.idle⟩
  obtain ⟨msgs, hmsgs, hcalls⟩ := calls_followed hcells (hready.perm l.ready.pending_finish)
  have hdue : ∀ evt ∈ l.dueEvts, evt.si = rachSchedSetUl ∧ evt.p3 = 0 := by
    intro evt hevt
    rw [dueEvts_eq] at hevt
    exact h.evts evt (List.mem_filter.1 hevt).1
  refine ⟨msgs, ?_, ?_⟩
  · rw [l1Sync_eq]
    exact hmsgs
  have hblocks : ∀ op ∈ mframeOps (l.mframeSched.nextTasks l.rest.nextTime.fn) l.rest.nextTime.fn,
      ∃ task, l.mframeSched.tasksTgt task = true ∧ op = nbOp task := by
    intro op hop
    obtain ⟨task, htask, heq⟩ := mem_mframeOps hop
    exact ⟨task, MframeScheduler.enabled_of_nextTasks htask, heq⟩
  have hreaches := hcalls.bind fun p₁ hp₁ => (nbOps_followed hblocks hp₁.1 hp₁.2).bind
    fun p₂ hp₂ => rachOps_followed hdue ((l.length_activeEvts_frame dsp).symm ▸ hp₂.1) hp₂.2
  rw [List.append_nil, List.append_nil] at hreaches
  obtain ⟨es, hout, hshows, hsets⟩ := hreaches
  refine ⟨es, hout, ?_, ?_, ?_⟩
  · rw [l1Sync_eq] at hshows ⊢
    exact hshows
  · rw [l1Sync_eq]
    change Phone.HasSets _ (performAll TdmaScheduler.perform l.ready.finish l.opsAt).1.pending
    rw [opsAt, performAll_append]
    exact hsets
  · intro evt hevt
    rw [activeEvts_frame] at hevt
    exact h.evts evt (List.mem_filter.1 hevt).1

end L1s

def Phone.take (p : Phone) : PhoneEvent ⊕ Octets → Phone × List Octets
  | .inl e => p.step e
  | .inr msg => p.l1aL23Handler msg

def phone : Machine Phone (PhoneEvent ⊕ Octets) Octets := ⟨Phone.take⟩

theorem phone_run_callbacks (p : Phone) (es : List PhoneEvent) :
    phone.run p (es.map .inl) = Phone.callbacks.run p es := by
  induction es generalizing p with
  | nil => rfl
  | cons e es ih =>
    rw [List.map_cons, Machine.run_cons, Machine.run_cons, ih]
    rfl

def phoneRequests (es : List (PhoneEvent ⊕ Octets)) : List Octets := es.filterMap Sum.getRight?

theorem phoneRequests_callbacks (es : List PhoneEvent) : phoneRequests (es.map .inl) = [] := by
  rw [phoneRequests, List.filterMap_map, List.filterMap_eq_nil_iff]
  exact fun _ _ => rfl

def L1sEvent.request : L1sEvent → Option Octets
  | .rachReq ra offset combined => some (l1ctlTxRachReq ra offset.toNat combined)
  | .ccchModeReq ccchMode => some (l1ctlTxCcchModeReq ccchMode)
  | _ => none

namespace L1s

theorem compl_followed {l : L1s} {p : Phone} (h : l.ShownBy p) :
    l.l1aComplExecute.rest.forL2 = l.rest.forL2 ++ (p.step .compl).2 ∧
      l.l1aComplExecute.ShownBy (p.step .compl).1 := by
  obtain ⟨hcell, hra, hlast, hcompl, hmframe, hevents, htdma, hfb⟩ := h.rest
  have hstep : p.step .compl = ({ p with complFb := false, complRach := false },
      if l.rest.complRach then [rachConf l.rest.lastRach.fn.toNat l.rest.lastRach.bandArfcn]
      else []) := by
    change p.l1aComplExecute = _
    simp only [Phone.l1aComplExecute, hfb, hcompl, hlast, Bool.false_eq_true, if_false,
      List.nil_append]
  rw [hstep]
  exact ⟨rfl, ⟨hcell, hra, hlast, rfl, hmframe, hevents, htdma, rfl⟩,
    ⟨h.sets.nb, h.sets.rach, h.sets.known⟩, h.evts⟩

theorem rachReq_followed {l : L1s} {p : Phone} (h : l.ShownBy p) (ra : UInt8) (offset : UInt16)
    (combined : UInt8) :
    (p.l1aL23Handler (l1ctlTxRachReq ra offset.toNat combined)).2 = [] ∧
      (l.l1aRachReq ra offset combined).ShownBy
        (p.l1aL23Handler (l1ctlTxRachReq ra offset.toNat combined)).1 := by
  obtain ⟨hcell, hra, hlast, hcompl, hmframe, hevents, hidle⟩ := h.rest
  have hhandler : p.l1aL23Handler (l1ctlTxRachReq ra offset.toNat combined) =
      ({ p with
          rachRa := ra
          rachEvents := if p.rachEvents < schedGsmtimeEvents then p.rachEvents + 1 else p.rachEvents
          lastRach := {} }, []) := rfl
  have htotal : l.gsmtime.activeEvts.length + l.gsmtime.inactiveEvts = schedGsmtimeEvents :=
    l.gsmtime.total
  rw [hhandler]
  refine ⟨rfl, ?_⟩
  unfold l1aRachReq SchedGsmtime.sched
  by_cases hfull : l.gsmtime.inactiveEvts = 0
  · simp only [dif_pos hfull]
    rw [if_neg (by omega)]
    exact ⟨⟨hcell, rfl, rfl, hcompl, hmframe, hevents, hidle⟩,
      ⟨h.sets.nb, h.sets.rach, h.sets.known⟩, h.evts⟩
  · simp only [dif_neg hfull]
    rw [if_pos (by omega)]
    refine ⟨⟨hcell, rfl, rfl, hcompl, hmframe, ?_, hidle⟩,
      ⟨h.sets.nb, h.sets.rach, h.sets.known⟩, fun evt hevt => ?_⟩
    · change p.rachEvents + 1 = (insertEvt _ _).length
      rw [(insertEvt_perm _ _).length_eq, hevents, List.length_cons]
    · rcases List.mem_cons.1 ((insertEvt_perm _ _).subset hevt) with rfl | hold
      · exact ⟨rfl, rfl⟩
      · exact h.evts evt hold

theorem ccchModeReq_followed {l : L1s} {p : Phone} (h : l.ShownBy p) (ccchMode : UInt8) :
    (p.l1aL23Handler (l1ctlTxCcchModeReq ccchMode)).2 = [l1ctlTxCcchModeConf ccchMode] ∧
      (l.l1ctlRxCcchModeReq ccchMode).ShownBy
        (p.l1aL23Handler (l1ctlTxCcchModeReq ccchMode)).1 := by
  obtain ⟨hcell, hra, hlast, hcompl, hmframe, hevents, hidle⟩ := h.rest
  have hhandler : p.l1aL23Handler (l1ctlTxCcchModeReq ccchMode) =
      (((({ p with servingCell := { p.servingCell with ccchMode := ccchMode } }
        : Phone).mframeDisable .ccchComb).mframeDisable .ccch).enableCcch,
        [l1ctlTxCcchModeConf ccchMode]) := rfl
  rw [hhandler]
  refine ⟨rfl, ?_⟩
  have hsets : ∀ p' : Phone, p'.nbSets = p.nbSets → p'.rachSets = p.rachSets →
      p'.HasSets l.tdmaSched.pending := by
    intro p' hnb hrach
    exact ⟨hnb ▸ h.sets.nb, hrach ▸ h.sets.rach, h.sets.known⟩
  unfold l1ctlRxCcchModeReq Phone.enableCcch
  simp only [Phone.mframeDisable, hcell, hmframe]
  by_cases hcombined : ccchMode = ccchModeCombined
  · simp only [if_pos hcombined]
    exact ⟨⟨rfl, hra, hlast, hcompl, rfl, hevents, hidle⟩, hsets _ rfl rfl, h.evts⟩
  · simp only [if_neg hcombined]
    by_cases hnonCombined : ccchMode = ccchModeNonCombined
    · simp only [if_pos hnonCombined]
      exact ⟨⟨rfl, hra, hlast, hcompl, rfl, hevents, hidle⟩, hsets _ rfl rfl, h.evts⟩
    · simp only [if_neg hnonCombined]
      exact ⟨⟨rfl, hra, hlast, hcompl, rfl, hevents, hidle⟩, hsets _ rfl rfl, h.evts⟩

/-- A run of the phone that has had the same requests and sent the same messages. -/
structure MatchedBy (p : Phone) (es : List L1sEvent) (l : L1s)
    (pes : List (PhoneEvent ⊕ Octets)) : Prop where
  requests : phoneRequests pes = es.filterMap L1sEvent.request
  sent : (phone.run p pes).2 = l.rest.forL2
  shown : l.ShownBy (phone.run p pes).1

theorem MatchedBy.extend {p : Phone} {es : List L1sEvent} {l l' : L1s}
    {pes pes' : List (PhoneEvent ⊕ Octets)} (h : MatchedBy p es l pes) {e : L1sEvent}
    (hrequests : phoneRequests pes' = [e].filterMap L1sEvent.request)
    (hsent : l'.rest.forL2 = l.rest.forL2 ++ (phone.run (phone.run p pes).1 pes').2)
    (hshown : l'.ShownBy (phone.run (phone.run p pes).1 pes').1) :
    MatchedBy p (es ++ [e]) l' (pes ++ pes') where
  requests := by
    rw [List.filterMap_append, ← h.requests, ← hrequests]
    exact List.filterMap_append
  sent := by rw [phone.run_append, hsent, h.sent]
  shown := by
    rw [phone.run_append]
    exact hshown

theorem MatchedBy.step {p : Phone} {es : List L1sEvent} {l : L1s}
    {pes : List (PhoneEvent ⊕ Octets)} (h : MatchedBy p es l pes) (e : L1sEvent) :
    ∃ pes', MatchedBy p (es ++ [e]) (l.step e).1 pes' := by
  cases e with
  | frame dsp =>
    obtain ⟨msgs, hmsgs, callbacks, rfl, hshown⟩ := frame_followed h.shown dsp
    refine ⟨pes ++ callbacks.map .inl, h.extend (phoneRequests_callbacks callbacks) ?_ ?_⟩
    · rw [phone_run_callbacks]
      exact hmsgs
    · rw [phone_run_callbacks]
      exact hshown
  | compl =>
    obtain ⟨hsent, hshown⟩ := compl_followed h.shown
    refine ⟨pes ++ [.inl .compl], h.extend rfl ?_ ?_⟩
    · rw [phone.run_cons, phone.run_nil, List.append_nil]
      exact hsent
    · exact hshown
  | rachReq ra offset combined =>
    obtain ⟨hsilent, hshown⟩ := rachReq_followed h.shown ra offset combined
    refine ⟨pes ++ [.inr (l1ctlTxRachReq ra offset.toNat combined)], h.extend rfl ?_ ?_⟩
    · rw [phone.run_cons, phone.run_nil, List.append_nil]
      change l.rest.forL2 = l.rest.forL2 ++
        ((phone.run p pes).1.l1aL23Handler (l1ctlTxRachReq ra offset.toNat combined)).2
      rw [hsilent, List.append_nil]
    · exact hshown
  | ccchModeReq ccchMode =>
    obtain ⟨hconf, hshown⟩ := ccchModeReq_followed h.shown ccchMode
    refine ⟨pes ++ [.inr (l1ctlTxCcchModeReq ccchMode)], h.extend rfl ?_ ?_⟩
    · rw [phone.run_cons, phone.run_nil, List.append_nil]
      change l.rest.forL2 ++ [l1ctlTxCcchModeConf ccchMode] = l.rest.forL2 ++
        ((phone.run p pes).1.l1aL23Handler (l1ctlTxCcchModeReq ccchMode)).2
      rw [hconf]
    · exact hshown

theorem onCell_matched (fn : ℕ) {p : Phone} (htdma : p.tdma = []) (hfb : p.complFb = false)
    (hevents : p.rachEvents = 0) : MatchedBy p [] (onCell fn p) [] where
  requests := rfl
  sent := rfl
  shown := ⟨⟨rfl, rfl, rfl, rfl, rfl, hevents, htdma, hfb⟩,
    ⟨fun _ => Nat.zero_le _, Nat.zero_le _, fun _ hcall => absurd hcall List.not_mem_nil⟩,
    fun _ hevt => absurd hevt List.not_mem_nil⟩

end L1s

/-- In every run on a cell, with any reads of the DSP, any requests and completions at any time, and
whether buckets of the TDMA scheduler overflow or not, layer 1 sends to layer 2 what the phone
sends in some order of its callbacks, with the same requests in the same order. -/
theorem l1s_refines_phone (fn : ℕ) {p : Phone} (htdma : p.tdma = []) (hfb : p.complFb = false)
    (hevents : p.rachEvents = 0) (es : List L1sEvent) :
    ∃ pes, L1s.MatchedBy p es (L1s.machine.run (L1s.onCell fn p) es).1 pes :=
  L1s.machine.trace_run (J := fun es l => ∃ pes, L1s.MatchedBy p es l pes)
    (fun _ _ e ⟨_, h⟩ => h.step e) ⟨[], L1s.onCell_matched fn htdma hfb hevents⟩ es

/-- The phone on ARFCN 7, reading the BCCH. -/
def bcchPhone : Phone :=
  { servingCell := { arfcn := 7 }, mframe := fun task => task = .bcchNorm }

/-- Seven frames, in the last four of which the DSP has the bursts of a block. -/
def blockRun : List L1sEvent :=
  [0, 0, 0, 0, 1, 2, 3].map fun burst => .frame
    { taskD := 24, burstD := burst
      block := { fn := 0, rxLevel := 40, snr := 9, numBiterr := 0, fireCrc := 0
                 data := List.replicate 23 0x2b, length_data := rfl } }

/-- The block of frame 53 comes out. -/
theorem l1s_refines_phone_block :
    (∃ pes, L1s.MatchedBy bcchPhone blockRun
      (L1s.machine.run (L1s.onCell 50 bcchPhone) blockRun).1 pes) ∧
    (L1s.machine.run (L1s.onCell 50 bcchPhone) blockRun).1.rest.forL2 =
      [dataInd { chanNr := 0x80, bandArfcn := 7, frameNr := 53, rxLevel := 40, snr := 9 }
        (List.replicate 23 0x2b)] :=
  ⟨l1s_refines_phone 50 rfl rfl rfl blockRun, by decide +kernel⟩

end ImsiCatcher

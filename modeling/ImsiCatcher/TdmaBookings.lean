import ImsiCatcher.TdmaCalendar

/-!
# Every booking of the TDMA scheduler is called once

In a run that loses nothing, the calls that are made in a frame are those that were booked for it.
A run loses calls where a bucket overflows, by a reset, and where a callback fails.
-/

universe u v

namespace ImsiCatcher
variable {C : Type u} {σ : Type v}

/-- The calls that are booked for a frame, by a call of the interface at a time. -/
def TdmaAct.booked (t : TdmaTime) (f : ℕ) : TdmaAct C → List (TdmaSchedCall C)
  | did op _ => op.bookings.filterMap fun b => if t.frame b.1 = f then some b.2 else none
  | called _ _ => []

def TdmaAct.made : TdmaAct C → Option (TdmaSchedCall C)
  | did _ _ => none
  | called call _ => some call

/-- A reset cancels calls, a bucket that overflows takes no more, and a callback that fails leaves
the calls behind it unmade. -/
def TdmaAct.Loses : TdmaAct C → Prop
  | did op rc => op = .reset ∨ rc = -1
  | called _ rc => rc < 0

instance [DecidableEq C] : DecidablePred (TdmaAct.Loses (C := C))
  | .did op rc => inferInstanceAs (Decidable (op = .reset ∨ rc = -1))
  | .called _ rc => inferInstanceAs (Decidable (rc < 0))

def bookedFor (f : ℕ) (acts : List (TdmaTime × TdmaAct C)) : List (TdmaSchedCall C) :=
  acts.flatMap fun o => o.2.booked o.1 f

def callsIn (f : ℕ) (acts : List (TdmaTime × TdmaAct C)) : List (TdmaSchedCall C) :=
  acts.filterMap fun o => if o.1.now = f then o.2.made else none

namespace TdmaCalendar

theorem book_due {c : TdmaCalendar C} {bookings : List (UInt8 × TdmaSchedCall C)}
    (h : (c.book bookings).1 = true) (f : ℕ) :
    (c.book bookings).2.due f = c.due f ++
      bookings.filterMap fun b => if c.time.frame b.1 = f then some b.2 else none := by
  induction bookings generalizing c with
  | nil => exact (List.append_nil _).symm
  | cons b bookings ih =>
    obtain ⟨offset, call⟩ := b
    rcases Nat.lt_or_ge (c.due (c.time.frame offset)).length tdmaschedNumCb with hlt | hge
    · rw [c.book_of_lt bookings hlt] at h ⊢
      rw [ih h]
      rw [List.filterMap_cons]
      by_cases hf : c.time.frame offset = f
      · simp only [setDue, hf, if_pos, List.append_assoc, List.singleton_append]
      · simp only [setDue, if_neg hf, if_neg (Ne.symm hf)]
        rfl
    · rw [c.book_of_not_lt bookings (Nat.not_lt.2 hge)] at h
      exact absurd h Bool.false_ne_true

theorem perform_due {c : TdmaCalendar C} {op : TdmaOp C}
    (h : ¬(TdmaAct.did op (c.perform op).1).Loses) (f : ℕ) :
    (c.perform op).2.due f = c.due f ++ (TdmaAct.did op (c.perform op).1).booked c.time f := by
  have hreset : op ≠ .reset := fun hop => h (Or.inl hop)
  have hbooked : (c.book op.bookings).1 = true := by
    rw [← Bool.not_eq_false]
    intro hfull
    have hrc : (c.perform op).1 = if (c.book op.bookings).1 then (op.result : ℤ) else -1 := rfl
    rw [hfull] at hrc
    exact h (Or.inr hrc)
  have hdue := book_due hbooked f
  cases op with
  | schedule => exact hdue
  | scheduleSet => exact hdue
  | reset => exact absurd rfl hreset

theorem performAll_due {c : TdmaCalendar C} {ops : List (TdmaOp C)}
    (h : ∀ act ∈ (performAll perform c ops).2, ¬act.Loses) (f : ℕ) :
    (performAll perform c ops).1.due f =
      c.due f ++ (performAll perform c ops).2.flatMap (TdmaAct.booked c.time f) := by
  induction ops generalizing c with
  | nil => exact (List.append_nil _).symm
  | cons op ops ih =>
    rw [performAll_cons, List.forall_mem_cons] at h
    rw [performAll_cons, List.flatMap_cons, ih h.2 , perform_due h.1, time_perform,
      List.append_assoc]

theorem performAll_made (c : TdmaCalendar C) (ops : List (TdmaOp C)) :
    (performAll perform c ops).2.filterMap TdmaAct.made = [] := by
  induction ops generalizing c with
  | nil => rfl
  | cons op ops ih => exact ih _

/-- What is booked while a frame is executed. -/
theorem executeFrom_due {react : TdmaSchedCall C → σ → TdmaReaction C σ}
    (front : List (TdmaSchedCall C))
    {c : TdmaCalendar C} {rest : σ} {i left : ℕ}
    (h : ∀ act ∈ (c.executeFrom react front rest i left).acts, ¬act.Loses) (f : ℕ) :
    (c.executeFrom react front rest i left).sched.due f =
      c.due f ++ (c.executeFrom react front rest i left).acts.flatMap
        (TdmaAct.booked c.time f) := by
  induction left generalizing c rest i with
  | zero => exact (List.append_nil _).symm
  | succ left ih =>
    unfold executeFrom at h ⊢
    split at h
    · rename_i call hcall
      by_cases hrc : (react call rest).rc < 0
      · rw [if_pos hrc, List.forall_mem_cons] at h
        exact absurd hrc h.1
      rw [if_neg hrc] at h ⊢
      simp only [List.cons_append, List.forall_mem_cons, List.forall_mem_append] at h
      have hrest := ih h.2.2
      rw [time_performAll] at hrest
      simp only [List.cons_append, List.flatMap_cons, List.flatMap_append]
      rw [hrest, performAll_due h.2.1, List.append_assoc]
      rfl
    · exact (List.append_nil _).symm

theorem executeFrom_extends {react : TdmaSchedCall C → σ → TdmaReaction C σ}
    (front : List (TdmaSchedCall C))
    {c : TdmaCalendar C} {rest : σ} {i left : ℕ}
    (h : ∀ act ∈ (c.executeFrom react front rest i left).acts, ¬act.Loses) (f : ℕ) :
    c.due f <+: (c.executeFrom react front rest i left).sched.due f := by
  rw [executeFrom_due front h]
  exact List.prefix_append _ _

/-- From an index on, all calls are made that are booked for the frame in the end. -/
theorem executeFrom_made {react : TdmaSchedCall C → σ → TdmaReaction C σ}
    {front : List (TdmaSchedCall C)}
    {c : TdmaCalendar C} {rest : σ} {i left : ℕ} (hleft : i + left = tdmaschedNumCb)
    (hfront : front.length ≤ (c.due c.time.now).length)
    (h : ∀ act ∈ (c.executeFrom react front rest i left).acts, ¬act.Loses) :
    (c.executeFrom react front rest i left).acts.filterMap TdmaAct.made =
      (front ++ ((c.executeFrom react front rest i left).sched.due c.time.now).drop
        front.length).drop i := by
  induction left generalizing c rest i with
  | zero =>
    have hroom := c.length_le c.time.now
    symm
    apply List.drop_eq_nil_of_le
    change (front ++ (c.due c.time.now).drop front.length).length ≤ i
    rw [List.length_append, List.length_drop]
    omega
  | succ left ih =>
    unfold executeFrom at h ⊢
    split at h
    · rename_i call hcall
      by_cases hrc : (react call rest).rc < 0
      · rw [if_pos hrc, List.forall_mem_cons] at h
        exact absurd hrc h.1
      rw [if_neg hrc] at h ⊢
      simp only [List.cons_append, List.forall_mem_cons, List.forall_mem_append] at h
      have hbooked := performAll_due h.2.1 c.time.now
      have hbefore : c.due c.time.now <+:
          (performAll perform c (react call rest).ops).1.due c.time.now :=
        hbooked ▸ List.prefix_append _ _
      have hgrown := hfront.trans hbefore.length_le
      have hall := hbefore.trans (executeFrom_extends front h.2.2 c.time.now)
      have hrest := ih (by omega) (by rwa [time_performAll]) h.2.2
      rw [time_performAll] at hrest
      -- the call at `i` is still there in the end
      obtain ⟨later, hlater⟩ := hall
      have hat : (front ++ (((performAll perform c (react call rest).ops).1.executeFrom react front
          (react call rest).rest (i + 1) left).sched.due c.time.now).drop front.length)[i]? =
            some call := by
        rw [← hlater, List.drop_append_of_le_length hfront, ← List.append_assoc,
          List.getElem?_append_left (List.getElem?_eq_some_iff.1 hcall).1]
        exact hcall
      obtain ⟨hlt, heq⟩ := List.getElem?_eq_some_iff.1 hat
      simp only [List.cons_append, List.filterMap_cons, TdmaAct.made, List.filterMap_append,
        performAll_made, List.nil_append]
      rw [hrest, List.drop_eq_getElem_cons hlt, heq]
    · rename_i hnone
      exact (List.drop_eq_nil_of_le (List.getElem?_eq_none_iff.1 hnone)).symm

theorem execute_due {react : TdmaSchedCall C → σ → TdmaReaction C σ} {c : TdmaCalendar C}
    {rest : σ} (h : ∀ act ∈ (c.execute react rest).acts, ¬act.Loses) (f : ℕ) :
    (c.execute react rest).sched.due f =
      c.due f ++ (c.execute react rest).acts.flatMap (TdmaAct.booked c.time f) :=
  executeFrom_due _ h f

/-- In a frame that loses nothing, all calls that are booked for it are made once each. -/
theorem execute_made {react : TdmaSchedCall C → σ → TdmaReaction C σ} {c : TdmaCalendar C}
    {rest : σ} (h : ∀ act ∈ (c.execute react rest).acts, ¬act.Loses) :
    ((c.execute react rest).acts.filterMap TdmaAct.made).Perm
      ((c.execute react rest).sched.due c.time.now) := by
  have hperm : (inPriorityOrder (c.due c.time.now)).Perm (c.due c.time.now) :=
    (prioritySeq_sorts _).arrange_perm
  have hmade := executeFrom_made (Nat.zero_add _) hperm.length_eq.le h
  obtain ⟨later, hlater⟩ := executeFrom_extends _ h c.time.now
  unfold execute
  rw [hmade, List.drop_zero, hperm.length_eq, ← hlater, List.drop_left]
  exact hperm.append_right later

end TdmaCalendar

theorem bookedFor_append (f : ℕ) (acts acts' : List (TdmaTime × TdmaAct C)) :
    bookedFor f (acts ++ acts') = bookedFor f acts ++ bookedFor f acts' := List.flatMap_append

theorem callsIn_append (f : ℕ) (acts acts' : List (TdmaTime × TdmaAct C)) :
    callsIn f (acts ++ acts') = callsIn f acts ++ callsIn f acts' := List.filterMap_append

theorem bookedFor_at (f : ℕ) (t : TdmaTime) (acts : List (TdmaAct C)) :
    bookedFor f (acts.map fun act => (t, act)) = acts.flatMap (TdmaAct.booked t f) := by
  rw [bookedFor, List.flatMap_map]

theorem callsIn_at (f : ℕ) (t : TdmaTime) (acts : List (TdmaAct C)) :
    callsIn f (acts.map fun act => (t, act)) =
      if t.now = f then acts.filterMap TdmaAct.made else [] := by
  rw [callsIn, List.filterMap_map]
  split
  · rename_i hf
    exact List.filterMap_congr fun act _ => if_pos hf
  · rename_i hf
    rw [List.filterMap_eq_nil_iff]
    intro act _
    exact if_neg hf

/-- Nothing is booked for a frame that is over. -/
theorem TdmaAct.booked_past {t : TdmaTime} {f : ℕ} (hf : f < t.next) (act : TdmaAct C) :
    act.booked t f = [] := by
  cases act with
  | did op rc =>
    rw [booked, List.filterMap_eq_nil_iff]
    intro b _
    have hle := t.next_le_frame b.1
    rw [if_neg (by omega)]
  | called => rfl

theorem flatMap_booked_past {t : TdmaTime} {f : ℕ} (hf : f < t.next) (acts : List (TdmaAct C)) :
    acts.flatMap (TdmaAct.booked t f) = [] := by
  rw [List.flatMap_eq_nil_iff]
  exact fun act _ => act.booked_past hf

/-- The calendar of a run that has lost nothing so far: it has all that was booked, and the calls
of the frames that are over were made. -/
structure Accounted (s : TdmaState (TdmaCalendar C) σ) (acts : List (TdmaTime × TdmaAct C)) :
    Prop where
  booked : ∀ f, bookedFor f acts = s.sched.due f
  made : ∀ f, f < s.frames → (callsIn f acts).Perm (bookedFor f acts)
  ahead : ∀ f, s.frames ≤ f → callsIn f acts = []

/-- A step that books for frames that are not over, and makes no calls. -/
theorem Accounted.extend {s s' : TdmaState (TdmaCalendar C) σ}
    {acts new : List (TdmaTime × TdmaAct C)} (h : Accounted s acts)
    (hbooked : ∀ f, s'.sched.due f = s.sched.due f ++ bookedFor f new)
    (hpast : ∀ f, f < s.frames → bookedFor f new = [] ∧ callsIn f new = [])
    (hnow : ∀ f, s.frames ≤ f → f < s'.frames → (callsIn f new).Perm (s'.sched.due f))
    (hahead : ∀ f, s'.frames ≤ f → s.frames ≤ f ∧ callsIn f new = []) :
    Accounted s' (acts ++ new) where
  booked := by
    intro f
    rw [bookedFor_append, h.booked f, hbooked f]
  made := by
    intro f hf
    rw [callsIn_append]
    rcases Nat.lt_or_ge f s.frames with hlt | hge
    · obtain ⟨hnone, hsilent⟩ := hpast f hlt
      rw [bookedFor_append, hnone, hsilent, List.append_nil, List.append_nil]
      exact h.made f hlt
    · rw [bookedFor_append, h.booked f, h.ahead f hge, List.nil_append, ← hbooked f]
      exact hnow f hge hf
  ahead := by
    intro f hf
    obtain ⟨hge, hsilent⟩ := hahead f hf
    rw [callsIn_append, h.ahead f hge, hsilent, List.nil_append]

theorem Accounted.step {react : TdmaSchedCall C → σ → TdmaReaction C σ}
    {s : TdmaState (TdmaCalendar C) σ} {acts : List (TdmaTime × TdmaAct C)} (h : Accounted s acts)
    (htime : s.sched.time = ⟨s.frames, false⟩) (e : TdmaEvent C σ)
    (hkeeps : ∀ o ∈ ((TdmaCalendar.interface react).step s e).2, ¬o.2.Loses) :
    Accounted ((TdmaCalendar.interface react).step s e).1
      (acts ++ ((TdmaCalendar.interface react).step s e).2) := by
  cases e with
  | op op =>
    have hdue := TdmaCalendar.perform_due (hkeeps _ List.mem_cons_self)
    rw [htime] at hdue
    have hsilent : ∀ f, callsIn f
        ((TdmaCalendar.interface react).step s (TdmaEvent.op op)).2 = [] := by
      intro f
      exact (callsIn_at f ⟨s.frames, false⟩ [.did op _]).trans (ite_self _)
    refine h.extend (fun f => ?_) (fun f hf => ⟨?_, hsilent f⟩) (fun f hf hlt => ?_)
      fun f hf => ⟨hf, hsilent f⟩
    · exact (hdue f).trans (congrArg _ (List.append_nil _).symm)
    · exact flatMap_booked_past (t := ⟨s.frames, false⟩) hf [.did op _]
    · exact absurd hlt (Nat.not_lt.2 hf)
  | rest rest =>
    exact h.extend (fun f => (List.append_nil _).symm) (fun f _ => ⟨rfl, rfl⟩)
      (fun f hf hlt => absurd hlt (Nat.not_lt.2 hf)) fun f hf => ⟨hf, rfl⟩
  | frame before behind =>
    simp only [TdmaInterface.step, TdmaCalendar.interface, List.forall_mem_append,
      List.forall_mem_map] at hkeeps ⊢
    obtain ⟨⟨hfront, hframe⟩, hback⟩ := hkeeps
    have hready := s.sched.time_performAll before
    rw [htime] at hready
    have hend := TdmaCalendar.time_execute react (performAll TdmaCalendar.perform s.sched before).1
      s.rest
    rw [hready] at hend
    -- what is booked before the execution, in it and behind it
    have hbooked₁ := TdmaCalendar.performAll_due hfront
    have hbooked₂ := TdmaCalendar.execute_due hframe
    have hbooked₃ := TdmaCalendar.performAll_due hback
    have hmade := TdmaCalendar.execute_made hframe
    rw [htime] at hbooked₁
    rw [hready] at hbooked₂ hmade
    rw [hend] at hbooked₃
    have hfront_silent := s.sched.performAll_made before
    have hback_silent := TdmaCalendar.performAll_made ((performAll TdmaCalendar.perform s.sched
      before).1.execute react s.rest).sched behind
    refine h.extend (fun f => ?_) (fun f hf => ⟨?_, ?_⟩) (fun f hf hlt => ?_) fun f hf => ⟨?_, ?_⟩
    · rw [bookedFor_append, bookedFor_at, bookedFor_at, List.flatMap_append]
      refine (hbooked₃ f).trans ?_
      rw [hbooked₂ f, hbooked₁ f, List.append_assoc, List.append_assoc, List.append_assoc]
    · rw [bookedFor_append, bookedFor_at, bookedFor_at, flatMap_booked_past,
        flatMap_booked_past]
      · rfl
      · exact Nat.lt_succ_of_lt hf
      · exact hf
    · rw [callsIn_append, callsIn_at, callsIn_at, if_neg (Nat.ne_of_gt hf),
        if_neg (Nat.ne_of_gt hf)]
      rfl
    · obtain rfl : f = s.frames := by
        change f < s.frames + 1 at hlt
        omega
      rw [callsIn_append, callsIn_at, callsIn_at, if_pos rfl, if_pos rfl, List.filterMap_append,
        hfront_silent, hback_silent, List.nil_append, List.append_nil]
      have hover := hbooked₃ s.frames
      rw [flatMap_booked_past (t := ⟨s.frames, true⟩) (Nat.lt_succ_self _), List.append_nil]
        at hover
      exact hmade.trans (hover ▸ List.Perm.refl _)
    · exact Nat.le_of_succ_le hf
    · have hne : s.frames ≠ f := Nat.ne_of_lt hf
      rw [callsIn_append, callsIn_at, callsIn_at, if_neg hne, if_neg hne]
      rfl

theorem TdmaCalendar.step_time {react : TdmaSchedCall C → σ → TdmaReaction C σ}
    {s : TdmaState (TdmaCalendar C) σ} (htime : s.sched.time = ⟨s.frames, false⟩)
    (e : TdmaEvent C σ) :
    ((TdmaCalendar.interface react).step s e).1.sched.time =
      ⟨((TdmaCalendar.interface react).step s e).1.frames, false⟩ := by
  cases e with
  | op op => exact (s.sched.time_perform op).trans htime
  | rest rest => exact htime
  | frame before behind =>
    simp only [TdmaInterface.step, TdmaCalendar.interface, TdmaCalendar.advance,
      TdmaCalendar.time_performAll, TdmaCalendar.time_execute, htime]

/-- A run of the ring that loses nothing, against the calendar of the same run. -/
theorem TdmaScheduler.run_accounted (react : TdmaSchedCall C → σ → TdmaReaction C σ) (null : C)
    (rest : σ) (es : List (TdmaEvent C σ))
    (hkeeps : ∀ o ∈ (TdmaScheduler.run react null rest es).2, ¬o.2.Loses) :
    (TdmaScheduler.run react null rest es).1.frames = (TdmaCalendar.run react rest es).1.frames ∧
      Accounted (TdmaCalendar.run react rest es).1 (TdmaScheduler.run react null rest es).2 := by
  obtain ⟨hend, hacts⟩ := InStep.run react null rest es
  rw [hacts] at hkeeps ⊢
  have hblank : Accounted (⟨TdmaCalendar.blank, rest, 0⟩ : TdmaState (TdmaCalendar C) σ) [] :=
    ⟨fun _ => rfl, fun _ hf => absurd hf (Nat.not_lt_zero _), fun _ _ => rfl⟩
  have hrun := (TdmaCalendar.interface react).machine.history_run
    (J := fun s acts => s.sched.time = ⟨s.frames, false⟩ ∧
      ((∀ o ∈ acts, ¬o.2.Loses) → Accounted s acts))
    (fun s acts e hs => ⟨TdmaCalendar.step_time hs.1 e, fun hall =>
      (hs.2 fun o ho => hall o (List.mem_append_left _ ho)).step hs.1 e
        fun o ho => hall o (List.mem_append_right _ ho)⟩) ⟨rfl, fun _ => hblank⟩ es
  rw [List.nil_append] at hrun
  exact ⟨hend.frames, hrun.2 hkeeps⟩

/-- In a run of the ring in which no bucket overflows, nothing is reset and no callback fails,
every call that is booked for a frame is made in this frame, once for each booking, and nothing
else is. -/
theorem tdmaSched_once (react : TdmaSchedCall C → σ → TdmaReaction C σ) (null : C) (rest : σ)
    (es : List (TdmaEvent C σ))
    (hkeeps : ∀ o ∈ (TdmaScheduler.run react null rest es).2, ¬o.2.Loses) (f : ℕ) :
    (f < (TdmaScheduler.run react null rest es).1.frames →
      (callsIn f (TdmaScheduler.run react null rest es).2).Perm
        (bookedFor f (TdmaScheduler.run react null rest es).2)) ∧
      ((TdmaScheduler.run react null rest es).1.frames ≤ f →
        callsIn f (TdmaScheduler.run react null rest es).2 = []) := by
  obtain ⟨hframes, haccounted⟩ := TdmaScheduler.run_accounted react null rest es hkeeps
  rw [hframes]
  exact ⟨haccounted.made f, haccounted.ahead f⟩

theorem tdmaSched_once_set :
    (callsIn 3 (TdmaScheduler.run (C := ℕ) (fun _ _ => { rest := () }) 0 ()
        [.op (.scheduleSet 1 [some { cb := 1 }, none, none, some { cb := 2, prio := -4 }] 7),
          .frame [] [.schedule 3 { cb := 3 }], .frame [] [], .frame [] [], .frame [] []]).2).Perm
      (bookedFor 3 (TdmaScheduler.run (C := ℕ) (fun _ _ => { rest := () }) 0 ()
        [.op (.scheduleSet 1 [some { cb := 1 }, none, none, some { cb := 2, prio := -4 }] 7),
          .frame [] [.schedule 3 { cb := 3 }], .frame [] [], .frame [] [], .frame [] []]).2) :=
  (tdmaSched_once _ _ _ _ (by decide) 3).1 (by decide)

end ImsiCatcher

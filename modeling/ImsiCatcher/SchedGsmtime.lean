import ImsiCatcher.TdmaSched

/-!
# One-shot events at a GSM time

A list of item sets with the frame number that each is scheduled for, in the order of these
numbers. The frame interrupt hands the sets of a frame to the TDMA scheduler two frames ahead.
There is room for 16 events.
-/

universe u

namespace ImsiCatcher
variable {C : Type u}

structure SchedGsmtimeEvent (C : Type u) where
  si : TdmaItemSet C
  fn : ℕ
  p3 : UInt16

def numGsmtimeEvents : ℕ := 16

def ebusy : ℤ := 16

def scheduleAhead : ℕ := 2

/-- The list `active_evts`, which is kept in order; of `inactive_evts` only the number matters. -/
structure SchedGsmtime (C : Type u) where
  activeEvts : List (SchedGsmtimeEvent C) := []
  inactiveEvts : ℕ := numGsmtimeEvents
  ordered : activeEvts.Pairwise (fun x y => x.fn ≤ y.fn) := by simp
  total : activeEvts.length + inactiveEvts = numGsmtimeEvents := by rfl

def insertEvt (evt : SchedGsmtimeEvent C) : List (SchedGsmtimeEvent C) → List (SchedGsmtimeEvent C)
  | [] => [evt]
  | cur :: evts => if evt.fn < cur.fn then evt :: cur :: evts else cur :: insertEvt evt evts

theorem insertEvt_perm (evt : SchedGsmtimeEvent C) (evts : List (SchedGsmtimeEvent C)) :
    (insertEvt evt evts).Perm (evt :: evts) := by
  induction evts with
  | nil => exact List.Perm.refl _
  | cons cur evts ih =>
    unfold insertEvt
    split
    · exact List.Perm.refl _
    · exact (ih.cons cur).trans (List.Perm.swap evt cur evts)

theorem insertEvt_ordered {evt : SchedGsmtimeEvent C} {evts : List (SchedGsmtimeEvent C)}
    (h : evts.Pairwise (fun x y => x.fn ≤ y.fn)) :
    (insertEvt evt evts).Pairwise (fun x y => x.fn ≤ y.fn) := by
  induction evts with
  | nil => exact List.pairwise_singleton _ _
  | cons cur evts ih =>
    rw [List.pairwise_cons] at h
    unfold insertEvt
    split
    · rename_i hlt
      refine List.Pairwise.cons (fun x hx => ?_) (List.Pairwise.cons h.1 h.2)
      rcases List.mem_cons.1 hx with rfl | hx
      · exact Nat.le_of_lt hlt
      · exact Nat.le_trans (Nat.le_of_lt hlt) (h.1 x hx)
    · rename_i hge
      refine List.Pairwise.cons (fun x hx => ?_) (ih h.2)
      rcases List.mem_cons.1 ((insertEvt_perm evt evts).subset hx) with rfl | hx
      · exact Nat.not_lt.1 hge
      · exact h.1 x hx

namespace SchedGsmtime

def sched (g : SchedGsmtime C) (si : TdmaItemSet C) (fn : ℕ) (p3 : UInt16) :
    ℤ × SchedGsmtime C :=
  if h : g.inactiveEvts = 0 then (-ebusy, g)
  else
    (0, { activeEvts := insertEvt ⟨si, fn, p3⟩ g.activeEvts
          inactiveEvts := g.inactiveEvts - 1
          ordered := insertEvt_ordered g.ordered
          total := by
            have htotal := g.total
            rw [(insertEvt_perm _ _).length_eq, List.length_cons]
            omega })

/-- The loop of `sched_gsmtime_execute`: the events of the frame, and those that stay. -/
def executeEvts (fn : ℕ) :
    List (SchedGsmtimeEvent C) → List (SchedGsmtimeEvent C) × List (SchedGsmtimeEvent C)
  | [] => ([], [])
  | evt :: evts =>
    if evt.fn = fn + scheduleAhead then
      (evt :: (executeEvts fn evts).1, (executeEvts fn evts).2)
    else if fn + scheduleAhead < evt.fn then ([], evt :: evts)
    else ((executeEvts fn evts).1, evt :: (executeEvts fn evts).2)

/-- As the list is in order, the loop misses no event of the frame. -/
theorem executeEvts_eq (fn : ℕ) {evts : List (SchedGsmtimeEvent C)}
    (h : evts.Pairwise (fun x y => x.fn ≤ y.fn)) :
    executeEvts fn evts = (evts.filter (fun evt => evt.fn = fn + scheduleAhead),
      evts.filter (fun evt => evt.fn ≠ fn + scheduleAhead)) := by
  induction evts with
  | nil => rfl
  | cons evt evts ih =>
    rw [List.pairwise_cons] at h
    unfold executeEvts
    rw [ih h.2]
    split
    · rename_i heq
      simp only [List.filter_cons, heq, decide_true, if_true, ne_eq, not_true, decide_false,
        Bool.false_eq_true, if_false]
    · rename_i hne
      split
      · rename_i hlt
        have hlater : ∀ x ∈ evt :: evts, x.fn ≠ fn + scheduleAhead := by
          intro x hx
          rcases List.mem_cons.1 hx with rfl | hx
          · exact hne
          · have hle := h.1 x hx
            omega
        rw [List.filter_eq_nil_iff.2 fun x hx => by simpa using hlater x hx,
          List.filter_eq_self.2 fun x hx => by simpa using hlater x hx]
      · simp only [List.filter_cons, hne, decide_false, Bool.false_eq_true, if_false, ne_eq,
          not_false_eq_true, decide_true, if_true]

/-- `sched_gsmtime_execute`: the events whose sets it schedules, and the list behind it. -/
def execute (g : SchedGsmtime C) (fn : ℕ) : List (SchedGsmtimeEvent C) × SchedGsmtime C :=
  ((executeEvts fn g.activeEvts).1,
    { activeEvts := (executeEvts fn g.activeEvts).2
      inactiveEvts := g.inactiveEvts + (executeEvts fn g.activeEvts).1.length
      ordered := by
        rw [executeEvts_eq fn g.ordered]
        exact g.ordered.filter _
      total := by
        have htotal := g.total
        have hsplit := List.length_eq_length_filter_add
          (l := g.activeEvts) (fun evt => decide (evt.fn = fn + scheduleAhead))
        rw [executeEvts_eq fn g.ordered]
        simp only [ne_eq, decide_not]
        omega })

def reset (g : SchedGsmtime C) : SchedGsmtime C where
  activeEvts := []
  inactiveEvts := g.inactiveEvts + g.activeEvts.length
  ordered := List.Pairwise.nil
  total := by
    have htotal := g.total
    rw [List.length_nil]
    omega

end SchedGsmtime

end ImsiCatcher

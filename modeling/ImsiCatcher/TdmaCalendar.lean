import ImsiCatcher.Machine
import ImsiCatcher.TdmaSched
import ImsiCatcher.TimingWheel

/-!
# The TDMA scheduler as a calendar

What the scheduler is for: a calendar with an entry for every TDMA frame. A call that is
scheduled a number of frames ahead is booked for that frame, and the frame interrupt makes the
calls of its frame. The ring of buckets does what the calendar does, in every run of frame
interrupts and of code between them, whatever the callbacks are.
-/

universe u v w

namespace ImsiCatcher
variable {C : Type u} {σ : Type v}

/-- A time within a run: the number of the frame interrupt, and whether the items of its frame
have been executed already. -/
structure TdmaTime where
  now : ℕ
  executed : Bool
  deriving DecidableEq, Repr

/-- The frame that an offset stands for: as many frames ahead, as far as the ring reaches. Once
the items of a frame have been executed, its bucket is that of a frame one round later. -/
def TdmaTime.frame (t : TdmaTime) (offset : UInt8) : ℕ :=
  if t.executed then t.now + 1 + (offset.toNat + 24) % tdmaschedNumFrames
  else t.now + offset.toNat % tdmaschedNumFrames

def setBookings (frameOffset : UInt8) (p3 : UInt16) :
    TdmaItemSet C → List (UInt8 × TdmaSchedCall C)
  | [] => []
  | none :: set => setBookings (frameOffset + 1) p3 set
  | some item :: set =>
    (frameOffset, { item.toTdmaSchedCall with p3 := p3 }) :: setBookings frameOffset p3 set

theorem setBookings_some (frameOffset : UInt8) (p3 : UInt16) (item : TdmaSchedItem C)
    (set : TdmaItemSet C) :
    setBookings frameOffset p3 (some item :: set) =
      (frameOffset, { item.toTdmaSchedCall with p3 := p3 }) :: setBookings frameOffset p3 set :=
  rfl

/-- The number of frames that a set goes on for. -/
def setFrames : TdmaItemSet C → ℕ
  | [] => 0
  | none :: set => setFrames set + 1
  | some _ :: set => setFrames set

def TdmaOp.bookings : TdmaOp C → List (UInt8 × TdmaSchedCall C)
  | schedule frameOffset call => [(frameOffset, call)]
  | scheduleSet frameOffset set p3 => setBookings frameOffset p3 set
  | reset => []

def TdmaOp.result : TdmaOp C → ℕ
  | scheduleSet _ set _ => setFrames set
  | _ => 0

/-- What is due in each frame; a frame has no more room than a bucket. -/
structure TdmaCalendar (C : Type u) where
  time : TdmaTime
  due : ℕ → List (TdmaSchedCall C)
  length_le : ∀ f, (due f).length ≤ tdmaschedNumCb

def prioritySeq (calls : List (TdmaSchedCall C)) : ℕ → ℕ :=
  ExchangeSort.sort (fun k => (calls[k]?.map TdmaSchedCall.prio).getD 0) calls.length

def inPriorityOrder (calls : List (TdmaSchedCall C)) : List (TdmaSchedCall C) :=
  ExchangeSort.arrange calls (prioritySeq calls)

namespace TdmaCalendar

def setDue (c : TdmaCalendar C) (frame : ℕ) (calls : List (TdmaSchedCall C))
    (h : calls.length ≤ tdmaschedNumCb) : TdmaCalendar C where
  time := c.time
  due := fun f => if f = frame then calls else c.due f
  length_le := by
    intro f
    split
    · exact h
    · exact c.length_le f

theorem length_concat_le {calls : List (TdmaSchedCall C)} (h : calls.length < tdmaschedNumCb)
    (call : TdmaSchedCall C) : (calls ++ [call]).length ≤ tdmaschedNumCb := by
  rw [List.length_append, List.length_singleton]
  exact h

/-- Books one call after the other, until one finds its frame full. -/
def book (c : TdmaCalendar C) : List (UInt8 × TdmaSchedCall C) → Bool × TdmaCalendar C
  | [] => (true, c)
  | (offset, call) :: calls =>
    let frame := c.time.frame offset
    if h : (c.due frame).length < tdmaschedNumCb then
      (c.setDue frame (c.due frame ++ [call]) (length_concat_le h call)).book calls
    else (false, c)

theorem book_of_lt (c : TdmaCalendar C) {offset : UInt8} {call : TdmaSchedCall C}
    (calls : List (UInt8 × TdmaSchedCall C))
    (h : (c.due (c.time.frame offset)).length < tdmaschedNumCb) :
    c.book ((offset, call) :: calls) =
      (c.setDue (c.time.frame offset) (c.due (c.time.frame offset) ++ [call])
        (length_concat_le h call)).book calls :=
  dif_pos h

theorem book_of_not_lt (c : TdmaCalendar C) {offset : UInt8} {call : TdmaSchedCall C}
    (calls : List (UInt8 × TdmaSchedCall C))
    (h : ¬(c.due (c.time.frame offset)).length < tdmaschedNumCb) :
    c.book ((offset, call) :: calls) = (false, c) :=
  dif_neg h

/-- All is cancelled but for the bucket of the current frame. -/
def reset (c : TdmaCalendar C) : TdmaCalendar C where
  time := c.time
  due := fun f => if f = c.time.frame 0 then c.due f else []
  length_le := by
    intro f
    split
    · exact c.length_le f
    · exact Nat.zero_le _

def perform (c : TdmaCalendar C) (op : TdmaOp C) : ℤ × TdmaCalendar C :=
  let booked := c.book op.bookings
  (if booked.1 then (op.result : ℤ) else -1,
    match op with
    | .reset => booked.2.reset
    | _ => booked.2)

def finish (c : TdmaCalendar C) : TdmaCalendar C :=
  { c with time := { c.time with executed := true } }

/-- The frame is left early, and its calls are due once more, one round later. -/
def abandon (c : TdmaCalendar C) : TdmaCalendar C :=
  (c.setDue (c.time.now + tdmaschedNumFrames) (c.due c.time.now) (c.length_le _)).finish

/-- Makes the calls of a frame from the one at `i` on: those in `front`, and behind them the calls
that were booked for the frame meanwhile. -/
def executeFrom (react : TdmaSchedCall C → σ → TdmaReaction C σ) (front : List (TdmaSchedCall C))
    (c : TdmaCalendar C) (rest : σ) (i : ℕ) : ℕ → TdmaExecuted C (TdmaCalendar C) σ
  | 0 => ⟨i, c.finish, rest, []⟩
  | left + 1 =>
    match (front ++ (c.due c.time.now).drop front.length)[i]? with
    | some call =>
      let r := react call rest
      let done := performAll perform c r.ops
      if r.rc < 0 then ⟨r.rc, done.1.abandon, r.rest, .called call r.rc :: done.2⟩
      else
        let e := done.1.executeFrom react front r.rest (i + 1) left
        { e with acts := .called call r.rc :: done.2 ++ e.acts }
    | none => ⟨i, c.finish, rest, []⟩

def execute (react : TdmaSchedCall C → σ → TdmaReaction C σ) (c : TdmaCalendar C) (rest : σ) :
    TdmaExecuted C (TdmaCalendar C) σ :=
  c.executeFrom react (inPriorityOrder (c.due c.time.now)) rest 0 tdmaschedNumCb

def advance (c : TdmaCalendar C) : TdmaCalendar C :=
  { c with time := ⟨c.time.now + 1, false⟩ }

end TdmaCalendar

/-! ### Runs of the frame interrupt -/

/-- The interrupt handler executes the items of its frame, with calls of the interface before and
behind, and advances. Between two interrupts the main loop calls the interface and changes the
rest of the phone. -/
inductive TdmaEvent (C : Type u) (σ : Type v) where
  | op (op : TdmaOp C)
  | rest (rest : σ)
  | frame (before behind : List (TdmaOp C))

/-- A scheduler with the rest of the phone, and the number of frame interrupts so far. -/
structure TdmaState (τ : Type u) (σ : Type v) where
  sched : τ
  rest : σ
  frames : ℕ := 0

structure TdmaInterface (C : Type u) (τ : Type w) (σ : Type v) where
  perform : τ → TdmaOp C → ℤ × τ
  execute : τ → σ → TdmaExecuted C τ σ
  advance : τ → τ

namespace TdmaInterface
variable {τ : Type w}

/-- Everything that is done comes out with its time. -/
def step (m : TdmaInterface C τ σ) (s : TdmaState τ σ) :
    TdmaEvent C σ → TdmaState τ σ × List (TdmaTime × TdmaAct C)
  | .op op =>
    ({ s with sched := (m.perform s.sched op).2 },
      [(⟨s.frames, false⟩, .did op (m.perform s.sched op).1)])
  | .rest rest => ({ s with rest := rest }, [])
  | .frame before behind =>
    let front := performAll m.perform s.sched before
    let e := m.execute front.1 s.rest
    let back := performAll m.perform e.sched behind
    ({ sched := m.advance back.1, rest := e.rest, frames := s.frames + 1 },
      (front.2 ++ e.acts).map (fun act => (⟨s.frames, false⟩, act)) ++
        back.2.map (fun act => (⟨s.frames, true⟩, act)))

def machine (m : TdmaInterface C τ σ) :
    Machine (TdmaState τ σ) (TdmaEvent C σ) (TdmaTime × TdmaAct C) := ⟨m.step⟩

end TdmaInterface

def TdmaScheduler.interface (react : TdmaSchedCall C → σ → TdmaReaction C σ) :
    TdmaInterface C (TdmaScheduler C) σ where
  perform := perform
  execute := execute react
  advance := advance

def TdmaCalendar.interface (react : TdmaSchedCall C → σ → TdmaReaction C σ) :
    TdmaInterface C (TdmaCalendar C) σ where
  perform := perform
  execute := execute react
  advance := advance

/-! ### The ring keeps the calendar -/

theorem performAll_cons {τ : Type w} (perform : τ → TdmaOp C → ℤ × τ) (s : τ) (op : TdmaOp C)
    (ops : List (TdmaOp C)) :
    performAll perform s (op :: ops) =
      ((performAll perform (perform s op).2 ops).1,
        .did op (perform s op).1 :: (performAll perform (perform s op).2 ops).2) := rfl

/-- The first frame that is still to be executed. -/
def TdmaTime.next (t : TdmaTime) : ℕ := if t.executed then t.now + 1 else t.now

/-- How far an offset lies ahead of the first frame that is still to be executed. -/
def TdmaTime.ahead (t : TdmaTime) (offset : UInt8) : ℕ :=
  if t.executed then offset.toNat + 24 else offset.toNat

theorem TdmaTime.frame_eq (t : TdmaTime) (offset : UInt8) :
    t.frame offset = t.next + t.ahead offset % tdmaschedNumFrames := by
  unfold frame next ahead
  split
  · rfl
  · rfl

theorem TdmaTime.next_le_frame (t : TdmaTime) (offset : UInt8) : t.next ≤ t.frame offset := by
  rw [t.frame_eq]
  exact Nat.le_add_right _ _

/-- The buckets of the ring are the entries of the calendar from the first frame on that is still
to be executed. -/
def KeepsCalendar (s : TdmaScheduler C) (c : TdmaCalendar C) : Prop :=
  TimingWheel.Shows tdmaschedNumFrames [] (fun nr => (s.bucket nr).calls)
    (if c.time.executed then s.curBucket + 1 else s.curBucket) c.due c.time.next

namespace KeepsCalendar
variable {s : TdmaScheduler C} {c : TdmaCalendar C}

theorem numFrames_pos : 0 < tdmaschedNumFrames := by decide

theorem wrapBucket_eq (s : TdmaScheduler C) (t : TdmaTime) (offset : UInt8) :
    s.wrapBucket offset =
      ((if t.executed then s.curBucket + 1 else s.curBucket) + t.ahead offset) %
        tdmaschedNumFrames := by
  unfold TdmaScheduler.wrapBucket TdmaTime.ahead
  split
  · have hround : s.curBucket + 1 + (offset.toNat + 24) =
        s.curBucket + offset.toNat + tdmaschedNumFrames := by
      change _ = _ + 25
      omega
    rw [hround, Nat.add_mod_right]
  · rfl

theorem calls_eq (h : KeepsCalendar s c) (offset : UInt8) :
    (s.bucket (s.wrapBucket offset)).calls = c.due (c.time.frame offset) := by
  have hslot := h.slot_ahead numFrames_pos (c.time.ahead offset)
  rwa [← wrapBucket_eq, ← TdmaTime.frame_eq] at hslot

theorem numItems_eq (h : KeepsCalendar s c) (offset : UInt8) :
    (s.bucket (s.wrapBucket offset)).numItems = (c.due (c.time.frame offset)).length := by
  rw [← h.calls_eq offset, TdmaSchedBucket.length_calls]

/-- An item in a bucket is a call in the frame of the bucket. -/
theorem push (h : KeepsCalendar s c) (offset : UInt8) (it : TdmaSchedItem C)
    (hroom : (s.bucket (s.wrapBucket offset)).numItems < tdmaschedNumCb)
    (hlen : (c.due (c.time.frame offset)).length < tdmaschedNumCb) :
    KeepsCalendar
      (s.setBucket (s.wrapBucket offset) ((s.bucket (s.wrapBucket offset)).push it hroom))
      (c.setDue (c.time.frame offset) (c.due (c.time.frame offset) ++ [it.toTdmaSchedCall])
        (TdmaCalendar.length_concat_le hlen _)) := by
  have hput := h.put numFrames_pos (c.time.ahead offset)
    (c.due (c.time.frame offset) ++ [it.toTdmaSchedCall])
  rw [← wrapBucket_eq, ← TdmaTime.frame_eq] at hput
  have hcalls : (fun nr => if nr = s.wrapBucket offset then
        c.due (c.time.frame offset) ++ [it.toTdmaSchedCall] else (s.bucket nr).calls) =
      fun nr => ((s.setBucket (s.wrapBucket offset)
        ((s.bucket (s.wrapBucket offset)).push it hroom)).bucket nr).calls := by
    funext nr
    simp only [TdmaScheduler.setBucket]
    split
    · rw [TdmaSchedBucket.calls_push, h.calls_eq]
    · rfl
  rw [hcalls] at hput
  exact hput

/-- A set of items, against its bookings. -/
theorem scheduleSetFrom (h : KeepsCalendar s c) (offset : UInt8) (p3 : UInt16) (j : ℕ)
    (set : TdmaItemSet C) :
    (s.scheduleSetFrom offset p3 j set).1 =
        (if (c.book (setBookings offset p3 set)).1 then ((j + setFrames set : ℕ) : ℤ) else -1) ∧
      KeepsCalendar (s.scheduleSetFrom offset p3 j set).2
        (c.book (setBookings offset p3 set)).2 := by
  induction set generalizing s c offset j with
  | nil => exact ⟨rfl, h⟩
  | cons entry set ih =>
    cases entry with
    | none =>
      have hnext := ih h (offset + 1) (j + 1)
      rw [Nat.add_right_comm] at hnext
      exact hnext
    | some item =>
      have hlen := h.numItems_eq offset
      rw [setBookings_some]
      simp only [TdmaScheduler.scheduleSetFrom]
      split
      · rename_i hroom
        rw [c.book_of_lt _ (hlen ▸ hroom)]
        exact ih (h.push offset { item with p3 := p3 } hroom (hlen ▸ hroom)) offset j
      · rename_i hfull
        rw [c.book_of_not_lt _ (hlen ▸ hfull)]
        exact ⟨rfl, h⟩

theorem schedule (h : KeepsCalendar s c) (offset : UInt8) (call : TdmaSchedCall C) :
    (s.schedule offset call).1 = (if (c.book [(offset, call)]).1 then 0 else -1) ∧
      KeepsCalendar (s.schedule offset call).2 (c.book [(offset, call)]).2 := by
  have hlen := h.numItems_eq offset
  simp only [TdmaScheduler.schedule]
  split
  · rename_i hroom
    rw [c.book_of_lt [] (hlen ▸ hroom)]
    exact ⟨rfl, h.push offset _ hroom (hlen ▸ hroom)⟩
  · rename_i hfull
    rw [c.book_of_not_lt [] (hlen ▸ hfull)]
    exact ⟨rfl, h⟩

theorem wrapBucket_zero (s : TdmaScheduler C) : s.wrapBucket 0 = s.curBucket :=
  Nat.mod_eq_of_lt s.curBucket_lt

theorem reset (h : KeepsCalendar s c) : KeepsCalendar s.reset c.reset := by
  have hvacate := h.vacate numFrames_pos (c.time.ahead 0)
  rw [← wrapBucket_eq, ← TdmaTime.frame_eq, wrapBucket_zero] at hvacate
  have hcalls : (fun nr => if nr = s.curBucket then (s.bucket nr).calls else []) =
      fun nr => (s.reset.bucket nr).calls := by
    funext nr
    simp only [TdmaScheduler.reset]
    split
    · rfl
    · rfl
  rw [hcalls] at hvacate
  exact hvacate

theorem perform (h : KeepsCalendar s c) (op : TdmaOp C) :
    (s.perform op).1 = (c.perform op).1 ∧ KeepsCalendar (s.perform op).2 (c.perform op).2 := by
  cases op with
  | schedule offset call => exact h.schedule offset call
  | scheduleSet offset set p3 =>
    have hset := h.scheduleSetFrom offset p3 0 set
    rw [Nat.zero_add] at hset
    exact hset
  | reset => exact ⟨rfl, h.reset⟩

theorem performAll (h : KeepsCalendar s c) (ops : List (TdmaOp C)) :
    (performAll TdmaScheduler.perform s ops).2 = (performAll TdmaCalendar.perform c ops).2 ∧
      KeepsCalendar (performAll TdmaScheduler.perform s ops).1
        (performAll TdmaCalendar.perform c ops).1 := by
  induction ops generalizing s c with
  | nil => exact ⟨rfl, h⟩
  | cons op ops ih =>
    obtain ⟨hrc, hkeeps⟩ := h.perform op
    obtain ⟨hacts, hend⟩ := ih hkeeps
    rw [performAll_cons, performAll_cons, hrc, hacts]
    exact ⟨rfl, hend⟩

end KeepsCalendar

/-! ### Bookings leave alone what is booked -/

namespace TdmaCalendar
variable (c : TdmaCalendar C)

@[simp] theorem time_book (bookings : List (UInt8 × TdmaSchedCall C)) :
    (c.book bookings).2.time = c.time := by
  induction bookings generalizing c with
  | nil => rfl
  | cons b bookings ih =>
    obtain ⟨offset, call⟩ := b
    simp only [book]
    split
    · exact ih _
    · rfl

@[simp] theorem time_perform (op : TdmaOp C) : (c.perform op).2.time = c.time := by
  cases op with
  | schedule => exact c.time_book _
  | scheduleSet => exact c.time_book _
  | reset => rfl

@[simp] theorem time_performAll (ops : List (TdmaOp C)) :
    (performAll perform c ops).1.time = c.time := by
  induction ops generalizing c with
  | nil => rfl
  | cons op ops ih => rw [performAll_cons, ih, time_perform]

theorem book_extends (bookings : List (UInt8 × TdmaSchedCall C)) (f : ℕ) :
    c.due f <+: (c.book bookings).2.due f := by
  induction bookings generalizing c with
  | nil => exact List.prefix_rfl
  | cons b bookings ih =>
    obtain ⟨offset, call⟩ := b
    simp only [book]
    split
    · refine List.IsPrefix.trans ?_ (ih _)
      simp only [setDue]
      split
      · rename_i hf
        rw [hf]
        exact List.prefix_append _ _
      · exact List.prefix_rfl
    · exact List.prefix_rfl

/-- What is booked for the frame that is being executed stays booked, even by a reset. -/
theorem perform_extends (h : c.time.executed = false) (op : TdmaOp C) :
    c.due c.time.now <+: (c.perform op).2.due c.time.now := by
  cases op with
  | schedule => exact c.book_extends _ _
  | scheduleSet => exact c.book_extends _ _
  | reset =>
    have hnow : c.time.now = c.time.frame 0 := by
      rw [TdmaTime.frame, h]
      rfl
    have hkept : (c.perform .reset).2.due c.time.now = c.due c.time.now := if_pos hnow
    exact ⟨[], by rw [List.append_nil, hkept]⟩

theorem performAll_extends (h : c.time.executed = false) (ops : List (TdmaOp C)) :
    c.due c.time.now <+: (performAll perform c ops).1.due c.time.now := by
  induction ops generalizing c with
  | nil => exact List.prefix_rfl
  | cons op ops ih =>
    have hfirst := c.perform_extends h op
    have hrest := ih (c.perform op).2 (by rw [time_perform]; exact h)
    rw [time_perform] at hrest
    exact hfirst.trans hrest

end TdmaCalendar

/-! ### The execution of a frame -/

/-- The keys of a bucket are those of its calls. -/
theorem sort_eq_calls (b : TdmaSchedBucket C) : b.sort = prioritySeq b.calls := by
  have hsort : b.sort = ExchangeSort.sort (fun k => (b.item k).prio) b.numItems := rfl
  rw [hsort, prioritySeq, TdmaSchedBucket.length_calls]
  apply ExchangeSort.sort_congr
  intro k hk
  rw [b.getElem?_calls hk]
  rfl

theorem prioritySeq_sorts (calls : List (TdmaSchedCall C)) :
    ExchangeSort.SortedUpTo (fun k => (calls[k]?.map TdmaSchedCall.prio).getD 0) calls.length
      calls.length (prioritySeq calls) :=
  ExchangeSort.sort_sorts _ _

namespace KeepsCalendar
variable {s : TdmaScheduler C} {c : TdmaCalendar C}

theorem due_now (h : KeepsCalendar s c) (hexec : c.time.executed = false) :
    (s.bucket s.curBucket).calls = c.due c.time.now := by
  have hcalls := h.calls_eq 0
  rw [wrapBucket_zero, TdmaTime.frame, hexec] at hcalls
  exact hcalls

/-- The item at an index of the loop is the call at this place: first come the calls that were
booked when the frame began, in the order of priority, and then the ones booked meanwhile. -/
theorem call_at (h : KeepsCalendar s c) (hexec : c.time.executed = false)
    {calls : List (TdmaSchedCall C)} (hcalls : calls <+: c.due c.time.now) (i : ℕ) :
    (inPriorityOrder calls ++
        (c.due c.time.now).drop (inPriorityOrder calls).length)[i]? =
      if i < (s.bucket s.curBucket).numItems then
        some ((s.bucket s.curBucket).item (prioritySeq calls i)).toTdmaSchedCall
      else none := by
  have hnow := h.due_now hexec
  have hsorts := prioritySeq_sorts calls
  have hlen : (inPriorityOrder calls).length = calls.length := hsorts.length_arrange
  have hnum : (s.bucket s.curBucket).numItems = (c.due c.time.now).length := by
    rw [← hnow, TdmaSchedBucket.length_calls]
  have hle : calls.length ≤ (s.bucket s.curBucket).numItems := hnum ▸ hcalls.length_le
  rcases Nat.lt_or_ge i calls.length with hi | hi
  · have hseq := hsorts.lt hi
    obtain ⟨later, hlater⟩ := hcalls
    rw [List.getElem?_append_left (hlen ▸ hi), inPriorityOrder, hsorts.getElem?_arrange hi,
      if_pos (by omega), ← (s.bucket s.curBucket).getElem?_calls (by omega), hnow, ← hlater,
      List.getElem?_append_left hseq]
  · rw [List.getElem?_append_right (hlen ▸ hi), List.getElem?_drop, hlen,
      Nat.add_sub_cancel' hi, ← hnow, hsorts.behind i hi]
    split
    · rename_i hlt
      exact (s.bucket s.curBucket).getElem?_calls hlt
    · rename_i hge
      rw [List.getElem?_eq_none]
      rw [TdmaSchedBucket.length_calls]
      omega

theorem unexecuted (h : KeepsCalendar s c) (hexec : c.time.executed = false) :
    TimingWheel.Shows tdmaschedNumFrames [] (fun nr => (s.bucket nr).calls) s.curBucket c.due
      c.time.now := by
  unfold KeepsCalendar TdmaTime.next at h
  rw [hexec] at h
  exact h

/-- The frame is left early: what is in its bucket stays there. -/
theorem abandon (h : KeepsCalendar s c) (hexec : c.time.executed = false) :
    KeepsCalendar s c.abandon :=
  (h.unexecuted hexec).turn numFrames_pos

/-- The frame is over and its bucket cleared. -/
theorem finish (h : KeepsCalendar s c) (hexec : c.time.executed = false) :
    KeepsCalendar (s.setBucket s.curBucket (s.bucket s.curBucket).clear) c.finish := by
  have hnow := h.unexecuted hexec
  have hput := hnow.put numFrames_pos 0 []
  rw [Nat.add_zero, Nat.mod_eq_of_lt s.curBucket_lt, Nat.zero_mod, Nat.add_zero] at hput
  have hcalls : (fun nr => if nr = s.curBucket then [] else (s.bucket nr).calls) =
      fun nr => ((s.setBucket s.curBucket (s.bucket s.curBucket).clear).bucket nr).calls := by
    funext nr
    simp only [TdmaScheduler.setBucket]
    split
    · rfl
    · rfl
  rw [hcalls] at hput
  refine (hput.turn numFrames_pos).congr fun t ht => ?_
  have hfar := hnow.eq_vacant tdmaschedNumFrames le_rfl
  split
  · rename_i hround
    rw [if_pos rfl, hround]
    exact hfar
  · rw [if_neg (by omega)]
    rfl

end KeepsCalendar

structure SameExecution (e : TdmaExecuted C (TdmaScheduler C) σ)
    (e' : TdmaExecuted C (TdmaCalendar C) σ) : Prop where
  rc : e.rc = e'.rc
  rest : e.rest = e'.rest
  acts : e.acts = e'.acts
  keeps : KeepsCalendar e.sched e'.sched

namespace KeepsCalendar
variable {s : TdmaScheduler C} {c : TdmaCalendar C}

theorem executeFrom (react : TdmaSchedCall C → σ → TdmaReaction C σ)
    (h : KeepsCalendar s c) (hexec : c.time.executed = false) {calls : List (TdmaSchedCall C)}
    (hcalls : calls <+: c.due c.time.now) (rest : σ) (i left : ℕ) :
    SameExecution
      (s.executeFrom react (prioritySeq calls) rest i left)
      (c.executeFrom react (inPriorityOrder calls) rest i left) := by
  induction left generalizing s c rest i with
  | zero => exact ⟨rfl, rfl, rfl, h.finish hexec⟩
  | succ left ih =>
    have hcall := h.call_at hexec hcalls i
    simp only [TdmaScheduler.executeFrom, TdmaCalendar.executeFrom]
    rw [hcall]
    split
    · dsimp only
      generalize react ((s.bucket s.curBucket).item (prioritySeq calls i)).toTdmaSchedCall rest = r
      obtain ⟨hacts, hkeeps⟩ := h.performAll r.ops
      have htime := c.time_performAll r.ops
      have hexec' :
          (ImsiCatcher.performAll TdmaCalendar.perform c r.ops).1.time.executed = false := by
        rw [htime]
        exact hexec
      have hcalls' := hcalls.trans (c.performAll_extends hexec r.ops)
      rw [← htime] at hcalls'
      have hrest := ih hkeeps hexec' hcalls' r.rest (i + 1)
      rw [hacts]
      split
      · exact ⟨rfl, rfl, rfl, hkeeps.abandon hexec'⟩
      · exact ⟨hrest.rc, hrest.rest, by rw [hrest.acts], hrest.keeps⟩
    · exact ⟨rfl, rfl, rfl, h.finish hexec⟩

theorem execute (react : TdmaSchedCall C → σ → TdmaReaction C σ) (h : KeepsCalendar s c)
    (hexec : c.time.executed = false) (rest : σ) :
    SameExecution (s.execute react rest) (c.execute react rest) := by
  have hloop := h.executeFrom react hexec List.prefix_rfl rest 0 tdmaschedNumCb
  rw [← h.due_now hexec, ← sort_eq_calls] at hloop
  rw [TdmaCalendar.execute, ← h.due_now hexec]
  exact hloop

theorem advance (h : KeepsCalendar s c) (hexec : c.time.executed = true) :
    KeepsCalendar s.advance c.advance := by
  unfold KeepsCalendar TdmaTime.next at h
  rw [hexec] at h
  exact h.wrap

end KeepsCalendar

/-! ### Runs -/

namespace TdmaCalendar

def blank : TdmaCalendar C where
  time := ⟨0, false⟩
  due := fun _ => []
  length_le := fun _ => Nat.zero_le _

theorem time_executeFrom (react : TdmaSchedCall C → σ → TdmaReaction C σ)
    (front : List (TdmaSchedCall C)) (c : TdmaCalendar C) (rest : σ) (i left : ℕ) :
    (c.executeFrom react front rest i left).sched.time = { c.time with executed := true } := by
  induction left generalizing c rest i with
  | zero => rfl
  | succ left ih =>
    simp only [executeFrom]
    split
    · split
      · simp only [abandon, finish, setDue, time_performAll]
      · simp only [ih, time_performAll]
    · rfl

theorem time_execute (react : TdmaSchedCall C → σ → TdmaReaction C σ) (c : TdmaCalendar C)
    (rest : σ) : (c.execute react rest).sched.time = { c.time with executed := true } :=
  c.time_executeFrom react _ rest 0 _

end TdmaCalendar

theorem TdmaScheduler.blank_keepsCalendar (null : C) :
    KeepsCalendar (TdmaScheduler.blank null) TdmaCalendar.blank where
  slot_eq := fun _ _ => rfl
  eq_vacant := fun _ _ => rfl

def TdmaScheduler.run (react : TdmaSchedCall C → σ → TdmaReaction C σ) (null : C) (rest : σ)
    (es : List (TdmaEvent C σ)) :
    TdmaState (TdmaScheduler C) σ × List (TdmaTime × TdmaAct C) :=
  (interface react).machine.run ⟨blank null, rest, 0⟩ es

def TdmaCalendar.run (react : TdmaSchedCall C → σ → TdmaReaction C σ) (rest : σ)
    (es : List (TdmaEvent C σ)) : TdmaState (TdmaCalendar C) σ × List (TdmaTime × TdmaAct C) :=
  (interface react).machine.run ⟨blank, rest, 0⟩ es

/-- The ring and the calendar between two events of a run. -/
structure InStep (s : TdmaState (TdmaScheduler C) σ) (t : TdmaState (TdmaCalendar C) σ) :
    Prop where
  keeps : KeepsCalendar s.sched t.sched
  time : t.sched.time = ⟨t.frames, false⟩
  rest : s.rest = t.rest
  frames : s.frames = t.frames

theorem InStep.step (react : TdmaSchedCall C → σ → TdmaReaction C σ)
    (s : TdmaState (TdmaScheduler C) σ) (t : TdmaState (TdmaCalendar C) σ) (e : TdmaEvent C σ)
    (h : InStep s t) :
    InStep ((TdmaScheduler.interface react).step s e).1
        ((TdmaCalendar.interface react).step t e).1 ∧
      ((TdmaScheduler.interface react).step s e).2 =
        ((TdmaCalendar.interface react).step t e).2 := by
  obtain ⟨hkeeps, htime, hrest, hframes⟩ := h
  cases e with
  | op op =>
    obtain ⟨hrc, hnext⟩ := hkeeps.perform op
    refine ⟨⟨hnext, (t.sched.time_perform op).trans htime, hrest, hframes⟩, ?_⟩
    simp only [TdmaInterface.step, TdmaScheduler.interface, TdmaCalendar.interface, hrc, hframes]
  | rest rest => exact ⟨⟨hkeeps, htime, rfl, hframes⟩, rfl⟩
  | frame before behind =>
    obtain ⟨hfront, hready⟩ := hkeeps.performAll before
    have hexec : (performAll TdmaCalendar.perform t.sched before).1.time.executed = false := by
      rw [TdmaCalendar.time_performAll, htime]
    obtain ⟨hrc, hrest', hacts, hdone⟩ := hready.execute react hexec s.rest
    obtain ⟨hback, hover⟩ := hdone.performAll behind
    have hend := TdmaCalendar.time_execute react (performAll TdmaCalendar.perform t.sched before).1
      s.rest
    rw [TdmaCalendar.time_performAll, htime] at hend
    have hexecuted : (performAll TdmaCalendar.perform ((performAll TdmaCalendar.perform t.sched
        before).1.execute react s.rest).sched behind).1.time = ⟨t.frames, true⟩ := by
      rw [TdmaCalendar.time_performAll, hend]
    have hnext := hover.advance (by rw [hexecuted])
    simp only [TdmaInterface.step, TdmaScheduler.interface, TdmaCalendar.interface, hfront, hacts,
      hback, hframes, ← hrest]
    refine ⟨⟨hnext, ?_, hrest', rfl⟩, trivial⟩
    simp only [TdmaCalendar.advance, hexecuted]

theorem InStep.run (react : TdmaSchedCall C → σ → TdmaReaction C σ) (null : C) (rest : σ)
    (es : List (TdmaEvent C σ)) :
    InStep (TdmaScheduler.run react null rest es).1 (TdmaCalendar.run react rest es).1 ∧
      (TdmaScheduler.run react null rest es).2 = (TdmaCalendar.run react rest es).2 := by
  have hstart : InStep (⟨TdmaScheduler.blank null, rest, 0⟩ : TdmaState (TdmaScheduler C) σ)
      ⟨TdmaCalendar.blank, rest, 0⟩ :=
    ⟨TdmaScheduler.blank_keepsCalendar null, rfl, rfl, rfl⟩
  exact (TdmaScheduler.interface react).machine.simulates_run
    (N := (TdmaCalendar.interface react).machine) (InStep.step react) hstart es

/-- In every run of frame interrupts, with whatever is done between and around them and whatever
the callbacks do, the ring of 25 buckets makes the same calls in the same frames and in the same
order as the calendar, and gives the same results. -/
theorem tdmaSched_keepsCalendar (react : TdmaSchedCall C → σ → TdmaReaction C σ) (null : C)
    (rest : σ) (es : List (TdmaEvent C σ)) :
    (TdmaScheduler.run react null rest es).2 = (TdmaCalendar.run react rest es).2 ∧
      (TdmaScheduler.run react null rest es).1.rest = (TdmaCalendar.run react rest es).1.rest := by
  obtain ⟨hend, hacts⟩ := InStep.run react null rest es
  exact ⟨hacts, hend.rest⟩

end ImsiCatcher

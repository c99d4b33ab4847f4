import ImsiCatcher.ExchangeSort
import Mathlib.Data.Int.Notation
import Mathlib.Data.Int.Order.Basic
import Mathlib.Tactic.Common

/-!
# The TDMA scheduler of the phone

A ring of 25 buckets, one for each of the next TDMA frames, with room for 8 items each. The frame
interrupt executes the bucket of its frame in the order of priority and advances to the next one.
The callbacks that it executes, and the code between two interrupts, schedule items a number of
frames ahead, schedule sets of items over several frames, or reset the ring.

The items of a bucket stay in its memory when it is cleared, so that an item that is scheduled
without flags has those of the item that stood in its place before.
-/

universe u v w

namespace ImsiCatcher

def tdmaschedNumFrames : ℕ := 25

def tdmaschedNumCb : ℕ := 8

/-- A call that is scheduled: the item of the scheduler but for its flags. -/
structure TdmaSchedCall (C : Type u) where
  cb : C
  p1 : UInt8 := 0
  p2 : UInt8 := 0
  p3 : UInt16 := 0
  prio : ℤ := 0
  deriving DecidableEq, Repr

structure TdmaSchedItem (C : Type u) extends TdmaSchedCall C where
  flags : UInt16 := 0
  deriving DecidableEq, Repr

def tdmaIflgTpu : UInt16 := 1

/-- `TDMA_IFLG_TPU | TDMA_IFLG_DSP` -/
def tdmaIflgDt : UInt16 := 3

structure TdmaSchedBucket (C : Type u) where
  item : ℕ → TdmaSchedItem C
  numItems : ℕ
  numItems_le : numItems ≤ tdmaschedNumCb

structure TdmaScheduler (C : Type u) where
  bucket : ℕ → TdmaSchedBucket C
  curBucket : ℕ
  curBucket_lt : curBucket < tdmaschedNumFrames

/-- The scheduler in zeroed memory, with `null` for a callback that is not there. -/
def TdmaScheduler.blank {C : Type u} (null : C) : TdmaScheduler C where
  bucket := fun _ =>
    { item := fun _ => { cb := null }, numItems := 0, numItems_le := Nat.zero_le _ }
  curBucket := 0
  curBucket_lt := by decide

/-- An item set. `SCHED_END_FRAME` is `none`, and `SCHED_END_SET` is the end of the list. -/
abbrev TdmaItemSet (C : Type u) := List (Option (TdmaSchedItem C))

variable {C : Type u} {σ : Type v}

namespace TdmaSchedBucket

def push (b : TdmaSchedBucket C) (it : TdmaSchedItem C) (h : b.numItems < tdmaschedNumCb) :
    TdmaSchedBucket C where
  item := fun k => if k = b.numItems then it else b.item k
  numItems := b.numItems + 1
  numItems_le := h

def clear (b : TdmaSchedBucket C) : TdmaSchedBucket C where
  item := b.item
  numItems := 0
  numItems_le := Nat.zero_le _

/-- `_tdma_sched_bucket_sort`; `item_i` is the item that `seq[i]` is the index of. -/
def sort (b : TdmaSchedBucket C) : ℕ → ℕ :=
  (List.range b.numItems).foldl (fun seq i =>
    (List.range' (i + 1) (b.numItems - (i + 1))).foldl (fun seq j =>
      if (b.item (seq j)).prio < (b.item (seq i)).prio then
        fun k => if k = i then seq j else if k = j then seq i else seq k
      else seq) seq) id

end TdmaSchedBucket

namespace TdmaScheduler

def wrapBucket (s : TdmaScheduler C) (offset : UInt8) : ℕ :=
  (s.curBucket + offset.toNat) % tdmaschedNumFrames

def setBucket (s : TdmaScheduler C) (bucketNr : ℕ) (b : TdmaSchedBucket C) : TdmaScheduler C :=
  { s with bucket := fun nr => if nr = bucketNr then b else s.bucket nr }

def schedule (s : TdmaScheduler C) (frameOffset : UInt8) (call : TdmaSchedCall C) :
    ℤ × TdmaScheduler C :=
  let bucket := s.bucket (s.wrapBucket frameOffset)
  if h : bucket.numItems < tdmaschedNumCb then
    (0, s.setBucket (s.wrapBucket frameOffset)
      (bucket.push ⟨call, (bucket.item bucket.numItems).flags⟩ h))
  else (-1, s)

def scheduleSetFrom (s : TdmaScheduler C) (frameOffset : UInt8) (p3 : UInt16) (j : ℕ) :
    TdmaItemSet C → ℤ × TdmaScheduler C
  | [] => (j, s)
  | none :: set => s.scheduleSetFrom (frameOffset + 1) p3 (j + 1) set
  | some item :: set =>
    let bucket := s.bucket (s.wrapBucket frameOffset)
    if h : bucket.numItems < tdmaschedNumCb then
      let bucket := bucket.push { item with p3 := p3 } h
      (s.setBucket (s.wrapBucket frameOffset) bucket).scheduleSetFrom frameOffset p3 j set
    else (-1, s)

def scheduleSet (s : TdmaScheduler C) (frameOffset : UInt8) (set : TdmaItemSet C) (p3 : UInt16) :
    ℤ × TdmaScheduler C :=
  s.scheduleSetFrom frameOffset p3 0 set

def advance (s : TdmaScheduler C) : TdmaScheduler C :=
  { s with
    curBucket := s.wrapBucket 1
    curBucket_lt := Nat.mod_lt _ (by decide) }

def flagScan (s : TdmaScheduler C) : UInt16 :=
  (List.range (s.bucket s.curBucket).numItems).foldl
    (fun flags i => flags ||| ((s.bucket s.curBucket).item i).flags) 0

def reset (s : TdmaScheduler C) : TdmaScheduler C :=
  { s with bucket := fun nr => if nr = s.curBucket then s.bucket nr else (s.bucket nr).clear }

end TdmaScheduler

/-! ### What is done to the scheduler -/

inductive TdmaOp (C : Type u) where
  | schedule (frameOffset : UInt8) (call : TdmaSchedCall C)
  | scheduleSet (frameOffset : UInt8) (set : TdmaItemSet C) (p3 : UInt16)
  | reset
  deriving DecidableEq, Repr

/-- What a callback does: its calls of the scheduler in their order, its result, and the rest of
the phone behind it. No callback of the phone looks at the results of its calls. -/
structure TdmaReaction (C : Type u) (σ : Type v) where
  ops : List (TdmaOp C) := []
  rc : ℤ := 0
  rest : σ

/-- What happened, in order: a call of the interface or of a callback, with its result. -/
inductive TdmaAct (C : Type u) where
  | did (op : TdmaOp C) (rc : ℤ)
  | called (call : TdmaSchedCall C) (rc : ℤ)
  deriving DecidableEq, Repr

def performAll {τ : Type v} (perform : τ → TdmaOp C → ℤ × τ) (s : τ) :
    List (TdmaOp C) → τ × List (TdmaAct C)
  | [] => (s, [])
  | op :: ops =>
    ((performAll perform (perform s op).2 ops).1,
      .did op (perform s op).1 :: (performAll perform (perform s op).2 ops).2)

/-- Where `tdma_sched_execute` ends: its result, the scheduler, the rest of the phone, and what
was done. -/
structure TdmaExecuted (C : Type u) (τ : Type v) (σ : Type w) where
  rc : ℤ
  sched : τ
  rest : σ
  acts : List (TdmaAct C) := []

namespace TdmaScheduler

def perform (s : TdmaScheduler C) : TdmaOp C → ℤ × TdmaScheduler C
  | .schedule frameOffset call => s.schedule frameOffset call
  | .scheduleSet frameOffset set p3 => s.scheduleSet frameOffset set p3
  | .reset => (0, s.reset)

/-- The loop of `tdma_sched_execute` from its index `i` on. A bucket holds no more than 8 items,
so that `left`, the number of indices below 8 that are left, does not cut it short. -/
def executeFrom (react : TdmaSchedCall C → σ → TdmaReaction C σ) (seq : ℕ → ℕ)
    (s : TdmaScheduler C) (rest : σ) (i : ℕ) : ℕ → TdmaExecuted C (TdmaScheduler C) σ
  | 0 => ⟨i, s.setBucket s.curBucket (s.bucket s.curBucket).clear, rest, []⟩
  | left + 1 =>
    if i < (s.bucket s.curBucket).numItems then
      let call := ((s.bucket s.curBucket).item (seq i)).toTdmaSchedCall
      let r := react call rest
      let done := performAll perform s r.ops
      if r.rc < 0 then ⟨r.rc, done.1, r.rest, .called call r.rc :: done.2⟩
      else
        let e := done.1.executeFrom react seq r.rest (i + 1) left
        { e with acts := .called call r.rc :: done.2 ++ e.acts }
    else ⟨i, s.setBucket s.curBucket (s.bucket s.curBucket).clear, rest, []⟩

def execute (react : TdmaSchedCall C → σ → TdmaReaction C σ) (s : TdmaScheduler C) (rest : σ) :
    TdmaExecuted C (TdmaScheduler C) σ :=
  s.executeFrom react (s.bucket s.curBucket).sort rest 0 tdmaschedNumCb

end TdmaScheduler

/-! ### The order in a bucket -/

namespace TdmaSchedBucket

def calls (b : TdmaSchedBucket C) : List (TdmaSchedCall C) :=
  (List.range b.numItems).map fun k => (b.item k).toTdmaSchedCall

@[simp] theorem length_calls (b : TdmaSchedBucket C) : b.calls.length = b.numItems := by
  rw [calls, List.length_map, List.length_range]

@[simp] theorem calls_clear (b : TdmaSchedBucket C) : b.clear.calls = [] := rfl

@[simp] theorem calls_push (b : TdmaSchedBucket C) (it : TdmaSchedItem C)
    (h : b.numItems < tdmaschedNumCb) :
    (b.push it h).calls = b.calls ++ [it.toTdmaSchedCall] := by
  simp only [calls, push, List.range_succ, List.map_append, List.map_singleton, if_pos]
  congr 1
  apply List.map_congr_left
  intro k hk
  rw [if_neg (Nat.ne_of_lt (List.mem_range.1 hk))]

theorem getElem?_calls (b : TdmaSchedBucket C) {k : ℕ} (hk : k < b.numItems) :
    b.calls[k]? = some (b.item k).toTdmaSchedCall := by
  rw [calls, List.getElem?_map, List.getElem?_range hk, Option.map_some]

theorem sort_sorts (b : TdmaSchedBucket C) :
    ExchangeSort.SortedUpTo (fun k => (b.item k).prio) b.numItems b.numItems b.sort :=
  ExchangeSort.sort_sorts (fun k => (b.item k).prio) b.numItems

end TdmaSchedBucket

/-- The array that `_tdma_sched_bucket_sort` makes holds the indices of the items in the order of
priority, each of them once; an item that comes in later is reached behind them, in its turn. -/
theorem tdmaSchedBucketSort_sorts (b : TdmaSchedBucket C) :
    ((List.range b.numItems).map b.sort).Perm (List.range b.numItems) ∧
      ((List.range b.numItems).map b.sort).Pairwise
        (fun k l => (b.item k).prio ≤ (b.item l).prio) ∧
      ∀ i, b.numItems ≤ i → b.sort i = i := by
  have hsorts := b.sort_sorts
  refine ⟨hsorts.perm, ?_, hsorts.behind⟩
  rw [List.pairwise_map]
  refine List.pairwise_lt_range.imp_of_mem ?_
  intro i j _ hj hij
  exact hsorts.le i j (Nat.lt_trans hij (List.mem_range.1 hj)) hij (List.mem_range.1 hj)

end ImsiCatcher

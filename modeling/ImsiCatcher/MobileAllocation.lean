import ImsiCatcher.Ccch
import ImsiCatcher.FrequencyList

/-!
# The mobile allocation of an assignment

The loop in the hopping branch of `gsm48_rx_imm_ass` reads one bit of the allocation for
each ARFCN of the cell, from the last octet towards the first, and keeps the ARFCNs whose
bit is set. The length of the allocation comes with the assignment and the ARFCNs with SI 1;
the loop compares neither with the other, nor with the message or the array it fills. What
lies outside the message is a parameter.
-/

namespace ImsiCatcher

/-- The octet that holds `mob_alloc_len`; the allocation itself follows. -/
def mobAllocLen (m : Octets) : ℕ := (octet m 11).toNat

/-- `mob_alloc[k]`, where `beyond` is the memory around the message. -/
def mobAlloc (m : Octets) (beyond : ℤ → UInt8) (k : ℤ) : UInt8 :=
  if 0 ≤ 12 + k ∧ 12 + k < m.length then octet m (12 + k).toNat else beyond k

def cellArfcns (cellChannelDescription : Octets) : List ℕ :=
  ((List.range' 1 1024).map (· % 1024)).filter
    (gsm48DecodeFreqList cellChannelDescription 16 0xff).contains

/-- The variables of the loop, with the indices at which it read the allocation. -/
structure AllocationLoop where
  j : ℕ := 0
  reads : List ℤ := []
  ma : List ℕ := []

def allocationIndex (m : Octets) (j : ℕ) : ℤ := (mobAllocLen m : ℤ) - (j >>> 3 : ℕ) - 1

def AllocationLoop.visit (m : Octets) (beyond : ℤ → UInt8) (s : AllocationLoop) (arfcn : ℕ) :
    AllocationLoop :=
  let k := allocationIndex m s.j
  { j := s.j + 1
    reads := s.reads ++ [k]
    ma := if bits (mobAlloc m beyond k) (s.j &&& 7) 1 = 1 then s.ma ++ [arfcn] else s.ma }

def mobileAllocation (cellChannelDescription m : Octets) (beyond : ℤ → UInt8) :
    AllocationLoop :=
  if octet m 3 &&& 0xf0 ≠ 0 ∨ hoppingBit m = 0 then {}
  else (cellArfcns cellChannelDescription).foldl (AllocationLoop.visit m beyond) {}

/-- The reads stay within the allocation and within the message, and the stores within `ma`. -/
structure AllocationLoop.InBounds (m : Octets) (s : AllocationLoop) : Prop where
  allocation : ∀ k ∈ s.reads, 0 ≤ k ∧ k < mobAllocLen m
  message : ∀ k ∈ s.reads, 12 + k < m.length
  stores : s.ma.length ≤ 64

def allocates (m : Octets) (j : ℕ) : Bool :=
  bits (octet m (12 + mobAllocLen m - j / 8 - 1)) (j % 8) 1 = 1

/-- An allocation that reaches for `n` ARFCNs, lies within the message and names at most 64. -/
def FitsAllocation (m : Octets) (n : ℕ) : Prop :=
  n = 0 ∨ n ≤ 8 * mobAllocLen m ∧ 12 + mobAllocLen m ≤ m.length ∧
    (List.range n).countP (allocates m) ≤ 64

theorem foldl_visit (m : Octets) (beyond : ℤ → UInt8) (arfcns : List ℕ) :
    (arfcns.foldl (AllocationLoop.visit m beyond) {}).j = arfcns.length ∧
    (arfcns.foldl (AllocationLoop.visit m beyond) {}).reads =
      (List.range arfcns.length).map (allocationIndex m) ∧
    (arfcns.foldl (AllocationLoop.visit m beyond) {}).ma.length =
      (List.range arfcns.length).countP
        fun j => bits (mobAlloc m beyond (allocationIndex m j)) (j &&& 7) 1 = 1 := by
  induction arfcns using List.reverseRecOn with
  | nil => exact ⟨rfl, rfl, rfl⟩
  | append_singleton arfcns arfcn ih =>
    obtain ⟨hj, hreads, hma⟩ := ih
    rw [List.foldl_append, List.foldl_cons, List.foldl_nil, List.length_append,
      List.length_singleton, List.range_succ, List.map_append, List.countP_append]
    simp only [AllocationLoop.visit]
    refine ⟨by rw [hj], by rw [hreads, hj]; rfl, ?_⟩
    rw [hj, ← hma]
    split
    · simp_all
    · simp_all

theorem allocationIndex_eq (m : Octets) (j : ℕ) :
    allocationIndex m j = (mobAllocLen m : ℤ) - (j / 8 : ℕ) - 1 := by
  rw [allocationIndex, Nat.shiftRight_eq_div_pow]

/-- Within its bounds the loop reads the bits of the message. -/
theorem mobAlloc_allocationIndex {m : Octets} {j : ℕ} (beyond : ℤ → UInt8)
    (hlen : 12 + mobAllocLen m ≤ m.length) (hj : j < 8 * mobAllocLen m) :
    mobAlloc m beyond (allocationIndex m j) = octet m (12 + mobAllocLen m - j / 8 - 1) := by
  rw [allocationIndex_eq, mobAlloc, if_pos ⟨by omega, by omega⟩]
  congr 1
  omega

theorem inBounds_iff (m : Octets) (beyond : ℤ → UInt8) (arfcns : List ℕ) :
    (arfcns.foldl (AllocationLoop.visit m beyond) {}).InBounds m ↔
      FitsAllocation m arfcns.length := by
  obtain ⟨_, hreads, hma⟩ := foldl_visit m beyond arfcns
  generalize arfcns.foldl (AllocationLoop.visit m beyond) {} = s at hreads hma
  generalize arfcns.length = n at hreads hma
  have hread : ∀ j < n, allocationIndex m j ∈ s.reads := by
    intro j hj
    rw [hreads]
    exact List.mem_map_of_mem (List.mem_range.2 hj)
  have hcount : n ≤ 8 * mobAllocLen m → 12 + mobAllocLen m ≤ m.length →
      s.ma.length = (List.range n).countP (allocates m) := by
    intro hfew hlen
    rw [hma]
    refine List.countP_congr fun j hj => ?_
    have hlt : j < n := List.mem_range.1 hj
    have hand : j &&& 7 = j % 8 := Nat.and_two_pow_sub_one_eq_mod j 3
    rw [mobAlloc_allocationIndex beyond hlen (by omega), hand, allocates]
  constructor
  · intro h
    by_cases hn : n = 0
    · exact Or.inl hn
    have hfirst := h.message _ (hread 0 (by omega))
    have hlast := (h.allocation _ (hread (n - 1) (by omega))).1
    rw [allocationIndex_eq] at hfirst hlast
    have hfew : n ≤ 8 * mobAllocLen m := by omega
    have hlen : 12 + mobAllocLen m ≤ m.length := by omega
    exact Or.inr ⟨hfew, hlen, hcount hfew hlen ▸ h.stores⟩
  · rintro (rfl | ⟨hfew, hlen, hstores⟩)
    · rw [List.range_zero, List.map_nil] at hreads
      rw [List.range_zero, List.countP_nil] at hma
      exact ⟨by simp [hreads], by simp [hreads], by omega⟩
    · rw [← hcount hfew hlen] at hstores
      refine ⟨?_, ?_, hstores⟩
      all_goals
        intro k hk
        rw [hreads] at hk
        obtain ⟨j, hj, rfl⟩ := List.mem_map.1 hk
        have hlt : j < n := List.mem_range.1 hj
        rw [allocationIndex_eq]
        omega

/-- The loop over the mobile allocation keeps within its buffers just when the cell has no
ARFCN, or the allocation has a bit for each of them, lies within the message, and at most 64 of
these bits are set. -/
theorem mobileAllocation_inBounds_iff (cellChannelDescription m : Octets) (beyond : ℤ → UInt8)
    (hpage : octet m 3 &&& 0xf0 = 0) (hhopping : hoppingBit m = 1) :
    (mobileAllocation cellChannelDescription m beyond).InBounds m ↔
      FitsAllocation m (cellArfcns cellChannelDescription).length := by
  have hbranch : ¬(octet m 3 &&& 0xf0 ≠ 0 ∨ hoppingBit m = 0) := by
    rw [hhopping]
    simp [hpage]
  rw [mobileAllocation, if_neg hbranch]
  exact inBounds_iff m beyond _

def hoppingAssignment (len : UInt8) : Octets :=
  [0x31, 0x06, 0x3f, 0x00, 0x41, 0x10, 0x05, 0x80, 0x00, 0x00, 0x00, len] ++
    List.replicate 11 0x01

/-- A bit map 0 with the ARFCN 1. -/
def singleArfcn : Octets := List.replicate 15 0x00 ++ [0x01]

theorem mobileAllocation_inBounds_one :
    (mobileAllocation singleArfcn (hoppingAssignment 1) fun _ => 0).InBounds
      (hoppingAssignment 1) :=
  (mobileAllocation_inBounds_iff singleArfcn (hoppingAssignment 1) (fun _ => 0) (by decide)
    (by decide)).2 (Or.inr ⟨by decide +kernel, by decide, by decide +kernel⟩)

/-- With one ARFCN and an allocation of no octets the loop reads the octet before it. -/
theorem mobileAllocation_out_of_bounds : ¬ ∀ (cellChannelDescription m : Octets)
    (beyond : ℤ → UInt8), m.length = 23 → octet m 3 &&& 0xf0 = 0 → hoppingBit m = 1 →
    (mobileAllocation cellChannelDescription m beyond).InBounds m := by
  intro h
  have hbounds := h singleArfcn (hoppingAssignment 0) (fun _ => 0) (by decide) (by decide)
    (by decide)
  have hread :
      (-1 : ℤ) ∈ (mobileAllocation singleArfcn (hoppingAssignment 0) fun _ => 0).reads := by
    decide +kernel
  exact absurd (hbounds.allocation _ hread).1 (by decide)

end ImsiCatcher

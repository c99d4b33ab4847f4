import ImsiCatcher.DifferenceTree
import ImsiCatcher.NeighbourMarks
import Mathlib.Tactic.IntervalCases

/-!
# What a neighbour description says

The set of ARFCNs that a list of 16 octets describes, in each of its six formats, next to
the set that `gsm48_decode_freq_list` marks. In the range formats the numbers are packed as a
tree of differences, and the tables of the code are that tree written out. In the range 256
format the code takes the fields W(14) and W(15), and the fields W(18) and W(19), one for
the other.
-/

namespace ImsiCatcher

inductive ListFormat where
  | bitMap0
  | range1024
  | range512
  | range256
  | range128
  | variableBitMap
  deriving DecidableEq

inductive NeighbourList where
  | si2
  | si2bis
  | si2ter
  deriving DecidableEq

namespace NeighbourList

def messageType : NeighbourList → ℕ
  | si2 => 0x1a
  | si2bis => 0x02
  | si2ter => 0x03

def mask : NeighbourList → UInt8
  | si2 => 0xce
  | si2bis => 0xce
  | si2ter => 0x8e

def mark : NeighbourList → UInt8
  | si2 => freqTypeNcell2
  | si2bis => freqTypeNcell2bis
  | si2ter => freqTypeNcell2ter

/-- The format by the bits 8, 7, 4, 3 and 2 of the first octet; in SI 2ter bit 7 is not part
of it. -/
def format (kind : NeighbourList) (o : UInt8) : Option ListFormat :=
  if bits o 7 1 = 0 then
    if kind = si2ter ∨ bits o 6 1 = 0 then some .bitMap0 else none
  else if kind ≠ si2ter ∧ bits o 6 1 = 1 then none
  else match bits o 1 3 with
    | 4 => some .range512
    | 5 => some .range256
    | 6 => some .range128
    | 7 => some .variableBitMap
    | _ => some .range1024

end NeighbourList

/-! ### The fields, in their order -/

/-- `W(1)` to `W(16)`, behind a zero. -/
def fields1024 (r : Gsm48Range1024) : List ℕ :=
  [0, (r.w1Hi <<< 8) ||| r.w1Lo, (r.w2Hi <<< 1) ||| r.w2Lo, (r.w3Hi <<< 2) ||| r.w3Lo,
    (r.w4Hi <<< 2) ||| r.w4Lo, (r.w5Hi <<< 2) ||| r.w5Lo, (r.w6Hi <<< 2) ||| r.w6Lo,
    (r.w7Hi <<< 2) ||| r.w7Lo, (r.w8Hi <<< 1) ||| r.w8Lo, r.w9, r.w10,
    (r.w11Hi <<< 6) ||| r.w11Lo, (r.w12Hi <<< 5) ||| r.w12Lo, (r.w13Hi <<< 4) ||| r.w13Lo,
    (r.w14Hi <<< 3) ||| r.w14Lo, (r.w15Hi <<< 2) ||| r.w15Lo, r.w16]

/-- `W(1)` to `W(17)`, behind the origin of the list. -/
def fields512 (r : Gsm48Range512) : List ℕ :=
  [(r.origArfcnHi <<< 9) ||| (r.origArfcnMid <<< 1) ||| r.origArfcnLo,
    (r.w1Hi <<< 2) ||| r.w1Lo, (r.w2Hi <<< 2) ||| r.w2Lo, (r.w3Hi <<< 2) ||| r.w3Lo,
    (r.w4Hi <<< 1) ||| r.w4Lo, r.w5, r.w6, (r.w7Hi <<< 6) ||| r.w7Lo,
    (r.w8Hi <<< 4) ||| r.w8Lo, (r.w9Hi <<< 2) ||| r.w9Lo, r.w10, r.w11,
    (r.w12Hi <<< 4) ||| r.w12Lo, (r.w13Hi <<< 2) ||| r.w13Lo, r.w14, r.w15,
    (r.w16Hi <<< 3) ||| r.w16Lo, r.w17]

/-- `W(1)` to `W(21)`, behind the origin of the list. -/
def fields256 (r : Gsm48Range256) : List ℕ :=
  [(r.origArfcnHi <<< 9) ||| (r.origArfcnMid <<< 1) ||| r.origArfcnLo,
    (r.w1Hi <<< 1) ||| r.w1Lo, r.w2, r.w3, (r.w4Hi <<< 5) ||| r.w4Lo,
    (r.w5Hi <<< 3) ||| r.w5Lo, (r.w6Hi <<< 1) ||| r.w6Lo, r.w7, (r.w8Hi <<< 4) ||| r.w8Lo,
    (r.w9Hi <<< 1) ||| r.w9Lo, r.w10, (r.w11Hi <<< 3) ||| r.w11Lo, r.w12, r.w13,
    (r.w14Hi <<< 2) ||| r.w14Lo, r.w15, (r.w16Hi <<< 3) ||| r.w16Lo, r.w17,
    (r.w18Hi <<< 3) ||| r.w18Lo, r.w19, (r.w20Hi <<< 3) ||| r.w20Lo, r.w21]

/-- `W(1)` to `W(28)`, behind the origin of the list. -/
def fields128 (r : Gsm48Range128) : List ℕ :=
  [(r.origArfcnHi <<< 9) ||| (r.origArfcnMid <<< 1) ||| r.origArfcnLo,
    r.w1, r.w2, (r.w3Hi <<< 4) ||| r.w3Lo, (r.w4Hi <<< 1) ||| r.w4Lo, r.w5,
    (r.w6Hi <<< 3) ||| r.w6Lo, r.w7, r.w8, r.w9, r.w10, r.w11, r.w12, r.w13, r.w14, r.w15,
    r.w16, r.w17, (r.w18Hi <<< 1) ||| r.w18Lo, r.w19, r.w20, (r.w21Hi <<< 2) ||| r.w21Lo, r.w22,
    r.w23, r.w24, r.w25, (r.w26Hi <<< 1) ||| r.w26Lo, r.w27, r.w28]

/-! ### The set that a list describes -/

def around (range count : ℕ) (w : ℕ → ℤ) : Set ℕ :=
  { i | (i : ℤ) = w 0 ∨ ∃ f ∈ DifferenceTree.numbers range count w, (i : ℤ) = (w 0 + f) % 1024 }

/-- The origin of a variable bit map. -/
def bitMapOrigin (cd : Octets) : ℕ :=
  (bits (octet cd 0) 0 1 <<< 9) ||| ((octet cd 1).toNat <<< 1) ||| bits (octet cd 2) 7 1

def ListFormat.describes : ListFormat → Octets → Set ℕ
  | bitMap0, cd =>
    { i | 1 ≤ i ∧ i ≤ 124 ∧ bits (octet cd (15 - (i - 1) / 8)) ((i - 1) % 8) 1 = 1 }
  | range1024, cd =>
    { i | (gsm48Range1024 cd).f0 = 1 ∧ i = 0 ∨
      (i : ℤ) ∈ DifferenceTree.numbers 1024 16 (wOf (fields1024 (gsm48Range1024 cd))) }
  | range512, cd => around 512 17 (wOf (fields512 (gsm48Range512 cd)))
  | range256, cd => around 256 21 (wOf (fields256 (gsm48Range256 cd)))
  | range128, cd => around 128 28 (wOf (fields128 (gsm48Range128 cd)))
  | variableBitMap, cd =>
    { i | i = bitMapOrigin cd ∨ ∃ n, 1 ≤ n ∧ n ≤ 111 ∧
      bits (octet cd (2 + n / 8)) (7 - n % 8) 1 = 1 ∧ i = (bitMapOrigin cd + n) % 1024 }

/-- The exchange of 14 with 15 and of 18 with 19. -/
def exchange (k : ℕ) : ℕ :=
  if k = 14 then 15 else if k = 15 then 14 else if k = 18 then 19 else if k = 19 then 18 else k

/-- A range 256 list that describes the same with W(14) and W(15), and W(18) and W(19),
exchanged. -/
def ExchangeNeutral (cd : Octets) : Prop :=
  around 256 21 (fun k => wOf (fields256 (gsm48Range256 cd)) (exchange k)) =
    around 256 21 (wOf (fields256 (gsm48Range256 cd)))

/-! ### The tables are the tree -/

theorem smod_eq (n : ℤ) {m : ℤ} (hm : 0 < m) : smod n m = DifferenceTree.residue n m :=
  (DifferenceTree.residue_eq_tmod n hm).symm

theorem marks1024_eq (w : ℕ → ℤ) :
    marks1024 w = (List.range' 1 16).map fun k => (k, DifferenceTree.value 1024 w k) := by
  simp (disch := decide) only [marks1024, smod_eq]
  rfl

theorem marks512_eq (w : ℕ → ℤ) : marks512 w =
    (List.range' 1 17).map fun k => (k, (w 0 + DifferenceTree.value 512 w k) % 1024) := by
  simp (disch := decide) only [marks512, smod_eq]
  rfl

theorem marks256_eq (w : ℕ → ℤ) : marks256 w =
    (List.range' 1 21).map fun k => (k, (w 0 + DifferenceTree.value 256 w k) % 1024) := by
  simp (disch := decide) only [marks256, smod_eq]
  rfl

theorem marks128_eq (w : ℕ → ℤ) : marks128 w =
    (List.range' 1 28).map fun k => (k, (w 0 + DifferenceTree.value 128 w k) % 1024) := by
  simp (disch := decide) only [marks128, smod_eq]
  rfl

/-! ### What the code marks -/

theorem mem_markNonzero (w f : ℕ → ℤ) (count i : ℕ) (hf : ∀ k, 0 ≤ f k) :
    i ∈ markNonzero w ((List.range' 1 count).map fun k => (k, f k)) ↔
      ∃ k, 1 ≤ k ∧ k ≤ count ∧ w k ≠ 0 ∧ (i : ℤ) = f k := by
  simp only [markNonzero, List.mem_map, List.mem_filter, decide_eq_true_eq]
  constructor
  · rintro ⟨_, ⟨⟨k, hk, rfl⟩, hne⟩, rfl⟩
    rw [List.mem_range'_1] at hk
    exact ⟨k, hk.1, by omega, hne, Int.toNat_of_nonneg (hf k)⟩
  · rintro ⟨k, hlow, hhigh, hne, hi⟩
    refine ⟨_, ⟨⟨k, List.mem_range'_1.2 ⟨hlow, by omega⟩, rfl⟩, hne⟩, ?_⟩
    dsimp only
    rw [← hi]
    exact Int.toNat_natCast i

theorem mem_around_iff (range count i : ℕ) (ws : List ℕ) :
    i ∈ (wOf ws 0).toNat :: markNonzero (wOf ws) ((List.range' 1 count).map fun k =>
        (k, (wOf ws 0 + DifferenceTree.value range (wOf ws) k) % 1024)) ↔
      i ∈ around range count (wOf ws) := by
  rw [List.mem_cons, mem_markNonzero _ _ _ _ fun k => Int.emod_nonneg _ (by decide)]
  have horigin : i = (wOf ws 0).toNat ↔ (i : ℤ) = wOf ws 0 := by
    unfold wOf
    omega
  rw [horigin]
  apply or_congr_right
  constructor
  · rintro ⟨k, hlow, hhigh, hne, hi⟩
    exact ⟨_, ⟨k, hlow, hhigh, hne, rfl⟩, hi⟩
  · rintro ⟨_, ⟨k, hlow, hhigh, hne, rfl⟩, hi⟩
    exact ⟨k, hlow, hhigh, hne, hi⟩

/-- The code reads the fields of a range 256 list in the exchanged order. -/
theorem wOf_w256 (r : Gsm48Range256) :
    wOf (w256 r 16) = fun k => wOf (fields256 r) (exchange k) := by
  funext k
  by_cases hk : k < 22
  · interval_cases k <;> rfl
  · have hsame : exchange k = k := by
      unfold exchange
      split_ifs <;> omega
    rw [hsame, wOf, wOf, List.getD_eq_default _ _ (by simp [w256]; omega),
      List.getD_eq_default _ _ (by simp [fields256]; omega)]

theorem mem_bitMap0 (cd : Octets) (i : ℕ) :
    i ∈ bitMap0 cd ↔ i ∈ ListFormat.bitMap0.describes cd := by
  rw [bitMap0, List.mem_filter, List.mem_range'_1, decide_eq_true_eq]
  constructor
  · rintro ⟨⟨hlow, hhigh⟩, hbit⟩
    exact ⟨hlow, by omega, hbit⟩
  · rintro ⟨hlow, hhigh, hbit⟩
    exact ⟨⟨hlow, by omega⟩, hbit⟩

theorem mem_variableBitMap (cd : Octets) (i : ℕ) :
    i ∈ variableBitMap cd 16 ↔ i ∈ ListFormat.variableBitMap.describes cd := by
  rw [variableBitMap]
  change i ∈ bitMapOrigin cd :: _ ↔ _
  rw [List.mem_cons]
  apply or_congr_right
  simp only [List.mem_map, List.mem_filter, List.mem_range'_1, decide_eq_true_eq]
  constructor
  · rintro ⟨n, ⟨⟨hlow, hhigh⟩, hbit⟩, rfl⟩
    exact ⟨n, hlow, by omega, hbit, rfl⟩
  · rintro ⟨n, hlow, hhigh, hbit, rfl⟩
    exact ⟨n, ⟨⟨hlow, by omega⟩, hbit⟩, rfl⟩

theorem mem_range1024 (cd : Octets) (i : ℕ) :
    i ∈ (if (gsm48Range1024 cd).f0 = 1 then [0] else []) ++
        markNonzero (wOf (w1024 (gsm48Range1024 cd) 16))
          (marks1024 (wOf (w1024 (gsm48Range1024 cd) 16))) ↔
      i ∈ ListFormat.range1024.describes cd := by
  have hw : w1024 (gsm48Range1024 cd) 16 = fields1024 (gsm48Range1024 cd) := rfl
  have hnonneg : ∀ k, 0 ≤ DifferenceTree.value 1024 (wOf (fields1024 (gsm48Range1024 cd))) k :=
    DifferenceTree.value_nonneg (by decide) fun k => Int.natCast_nonneg _
  rw [List.mem_append, hw, marks1024_eq, mem_markNonzero _ _ _ _ hnonneg]
  refine or_congr ?_ Iff.rfl
  split
  · rename_i hf0
    simp [hf0]
  · rename_i hf0
    simp [hf0]

namespace NeighbourList

/-- The tests of the code tell the formats apart. -/
theorem format_eq (kind : NeighbourList) (o : UInt8) : kind.format o =
    if o &&& 0xc0 &&& kind.mask = 0x00 then some .bitMap0
    else if o &&& 0xc8 &&& kind.mask = 0x80 then some .range1024
    else if o &&& 0xce &&& kind.mask = 0x88 then some .range512
    else if o &&& 0xce &&& kind.mask = 0x8a then some .range256
    else if o &&& 0xce &&& kind.mask = 0x8c then some .range128
    else if o &&& 0xce &&& kind.mask = 0x8e then some .variableBitMap
    else none := by
  obtain ⟨⟨o⟩⟩ := o
  revert o
  cases kind <;> decide +kernel

/-- The code marks what a list describes, with the exchange in the range 256 format. -/
theorem mem_gsm48DecodeFreqList {kind : NeighbourList} {cd : Octets} {format : ListFormat}
    (h : kind.format (octet cd 0) = some format) (i : ℕ) :
    i ∈ gsm48DecodeFreqList cd 16 kind.mask ↔
      i ∈ if format = .range256 then
          around 256 21 fun k => wOf (fields256 (gsm48Range256 cd)) (exchange k)
        else format.describes cd := by
  rw [format_eq] at h
  unfold gsm48DecodeFreqList
  by_cases hbitMap0 : octet cd 0 &&& 0xc0 &&& kind.mask = 0x00
  · rw [if_pos hbitMap0] at h ⊢
    obtain rfl := Option.some_inj.1 h
    exact mem_bitMap0 cd i
  rw [if_neg hbitMap0] at h ⊢
  by_cases h1024 : octet cd 0 &&& 0xc8 &&& kind.mask = 0x80
  · rw [if_pos h1024] at h ⊢
    obtain rfl := Option.some_inj.1 h
    exact mem_range1024 cd i
  rw [if_neg h1024] at h ⊢
  by_cases h512 : octet cd 0 &&& 0xce &&& kind.mask = 0x88
  · rw [if_pos h512] at h ⊢
    obtain rfl := Option.some_inj.1 h
    have hmem := mem_around_iff 512 17 i (fields512 (gsm48Range512 cd))
    rw [← marks512_eq] at hmem
    exact hmem
  rw [if_neg h512] at h ⊢
  by_cases h256 : octet cd 0 &&& 0xce &&& kind.mask = 0x8a
  · rw [if_pos h256] at h ⊢
    obtain rfl := Option.some_inj.1 h
    have hmem := mem_around_iff 256 21 i (w256 (gsm48Range256 cd) 16)
    rw [← marks256_eq] at hmem
    rw [if_pos rfl, ← wOf_w256]
    exact hmem
  rw [if_neg h256] at h ⊢
  by_cases h128 : octet cd 0 &&& 0xce &&& kind.mask = 0x8c
  · rw [if_pos h128] at h ⊢
    obtain rfl := Option.some_inj.1 h
    have hmem := mem_around_iff 128 28 i (fields128 (gsm48Range128 cd))
    rw [← marks128_eq] at hmem
    exact hmem
  rw [if_neg h128] at h ⊢
  by_cases hvariable : octet cd 0 &&& 0xce &&& kind.mask = 0x8e
  · rw [if_pos hvariable] at h ⊢
    obtain rfl := Option.some_inj.1 h
    exact mem_variableBitMap cd i
  rw [if_neg hvariable] at h
  exact absurd h (by simp)

/-- What a decoded message leaves marked is its own list. -/
theorem marked_bcchDecode {kind : NeighbourList} {s s' : Gsm48Sysinfo} {msg : Octets}
    (h : s.bcchDecode msg = some s') (htype : ImsiCatcher.messageType msg = kind.messageType) :
    s'.marked kind.mark = listed kind.mask msg := by
  have hpart := Gsm48Sysinfo.bcchDecode_neighbourPart h
  unfold NeighbourPart.hear at hpart
  rw [htype] at hpart
  cases kind with
  | si2 => exact congrArg NeighbourPart.marked2 hpart
  | si2bis => exact congrArg NeighbourPart.marked2bis hpart
  | si2ter => exact congrArg NeighbourPart.marked2ter hpart

end NeighbourList

/-- A message with a neighbour description marks just what the description says, in every
format but range 256, and in that one if the two exchanges do not change what it says. -/
theorem neighbours_as_described_iff (kind : NeighbourList) (s s' : Gsm48Sysinfo) (msg : Octets)
    (format : ListFormat) (hdecode : s.bcchDecode msg = some s')
    (htype : messageType msg = kind.messageType)
    (hformat : kind.format (octet (msg.drop 3) 0) = some format) :
    (∀ i, s'.marked kind.mark i = true ↔ i ∈ format.describes (msg.drop 3)) ↔
      (format = .range256 → ExchangeNeutral (msg.drop 3)) := by
  have hlisted : ∀ i, s'.marked kind.mark i = true ↔
      i ∈ if format = .range256 then
          around 256 21 fun k => wOf (fields256 (gsm48Range256 (msg.drop 3))) (exchange k)
        else format.describes (msg.drop 3) := by
    intro i
    rw [NeighbourList.marked_bcchDecode hdecode htype, listed, decide_eq_true_eq]
    exact NeighbourList.mem_gsm48DecodeFreqList hformat i
  by_cases h256 : format = .range256
  · subst h256
    simp only [hlisted, if_true, true_imp_iff]
    exact Set.ext_iff.symm
  · simp only [hlisted, h256, if_false, false_imp_iff, implies_true]

/-- Lists whose exchanged fields are the same, such as those of at most 13 numbers, are
described alike either way. -/
theorem exchangeNeutral_of_eq {cd : Octets}
    (h14 : wOf (fields256 (gsm48Range256 cd)) 14 = wOf (fields256 (gsm48Range256 cd)) 15)
    (h18 : wOf (fields256 (gsm48Range256 cd)) 18 = wOf (fields256 (gsm48Range256 cd)) 19) :
    ExchangeNeutral cd := by
  unfold ExchangeNeutral
  congr 1
  funext k
  unfold exchange
  split_ifs with hk₁ hk₂ hk₃ hk₄
  · rw [hk₁, h14]
  · rw [hk₂, h14]
  · rw [hk₃, h18]
  · rw [hk₄, h18]
  · rfl

/-- An SI 2 with a list in the range 256 format of the origin 5 and fourteen numbers. -/
def si2Range256 : Octets :=
  [0x59, 0x06, 0x1a, 0x8a, 0x02, 0xec, 0xb2, 0xc5, 0xcb, 0x61, 0xa3, 0xf8, 0xc1, 0xbe, 0xd6,
    0xc0, 0x00, 0x00, 0x00, 0xff, 0x79, 0x00, 0x00]

/-- The same with the first number alone, so that the exchanged fields are the same. -/
def si2Range256Pair : Octets :=
  [0x59, 0x06, 0x1a, 0x8a, 0x02, 0xec, 0x80] ++ List.replicate 12 0x00 ++ [0xff, 0x79, 0x00, 0x00]

theorem neighbours_as_described_pair :
    (({} : Gsm48Sysinfo).gsm48DecodeSysinfo2 si2Range256Pair).marked freqTypeNcell2 222 = true ↔
      222 ∈ ListFormat.range256.describes (si2Range256Pair.drop 3) :=
  (neighbours_as_described_iff .si2 {} _ si2Range256Pair .range256 (by rfl) (by decide)
    (by decide)).2 (fun _ => exchangeNeutral_of_eq (by decide) (by decide)) 222

/-- The fourteenth number of the list is 174; the code reads its field as the fifteenth. -/
theorem neighbours_not_as_described : ¬ ∀ (kind : NeighbourList) (s s' : Gsm48Sysinfo)
    (msg : Octets) (format : ListFormat), s.bcchDecode msg = some s' →
    messageType msg = kind.messageType → kind.format (octet (msg.drop 3) 0) = some format →
    ∀ i, s'.marked kind.mark i = true ↔ i ∈ format.describes (msg.drop 3) := by
  intro h
  have hiff := h .si2 {} (({} : Gsm48Sysinfo).gsm48DecodeSysinfo2 si2Range256) si2Range256
    .range256 (by rfl) (by decide) (by decide) 174
  have hdescribed : 174 ∈ ListFormat.range256.describes (si2Range256.drop 3) :=
    Or.inr ⟨_, ⟨14, by decide, by decide, by decide +kernel, rfl⟩, by decide +kernel⟩
  have hmarked := hiff.2 hdescribed
  revert hmarked
  decide +kernel

end ImsiCatcher

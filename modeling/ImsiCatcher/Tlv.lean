import ImsiCatcher.NetworkOrder
import Mathlib.Data.List.TakeDrop

/-!
# Information elements

The parser of `tlv_parser.c` finds the elements of a message by a table that gives the type of
each tag, and keeps the last element of each tag. What the `msgb` functions of `tlv.h` append to
a message under the same table it finds again. The pointers that the `put` functions return are
not used there; that of `tl16v_put` lies behind the element.
-/

namespace ImsiCatcher

inductive TlvType where
  | none
  | fixed (len : ℕ)
  | t
  | tv
  | tlv
  | tl16v
  | tvLv
  | singleTv
  deriving DecidableEq, Repr

abbrev TlvDefinition := UInt8 → TlvType

structure TlvElement where
  tag : UInt8
  ofs : ℕ
  len : ℕ
  deriving DecidableEq, Repr

def TlvElement.value (e : TlvElement) (buf : Octets) : Octets := (buf.drop e.ofs).take e.len

/-- A value of `len` octets behind `header` octets, where there is room for it. -/
def lengthValue (buf : Octets) (tag : UInt8) (header len : ℕ) : Option (TlvElement × ℕ) :=
  if buf.length < header + len then none else some (⟨tag, header, len⟩, header + len)

def tlvParseTyped (type : TlvType) (tag : UInt8) (buf : Octets) : Option (TlvElement × ℕ) :=
  match type with
  | .t => some (⟨tag, 0, 0⟩, 1)
  | .tv => some (⟨tag, 1, 1⟩, 2)
  | .fixed len => some (⟨tag, 1, len⟩, len + 1)
  | .tlv => lengthValue buf tag 2 (octet buf 1).toNat
  | .tvLv =>
    if octet buf 1 &&& 0x80 ≠ 0 then lengthValue buf tag 2 (octet buf 1 &&& 0x7f).toNat
    else if buf.length < 2 then none else lengthValue buf tag 3 (ntohs buf 1)
  | .tl16v => if buf.length < 2 then none else lengthValue buf tag 3 (ntohs buf 1)
  | .none | .singleTv => none

/-- `tlv_parse_one`: the element in front of a message, and how many octets it takes. -/
def tlvParseOne (d : TlvDefinition) (buf : Octets) : Option (TlvElement × ℕ) :=
  let tag := octet buf 0
  if d (tag &&& 0xf0) = .singleTv then some (⟨tag &&& 0xf0, 0, 1⟩, 1)
  else tlvParseTyped (d tag) tag buf

structure TlvPEntry where
  ofs : ℕ
  len : ℕ
  deriving DecidableEq, Repr

/-- `struct tlv_parsed`: a tag that was not found has no entry. -/
abbrev TlvParsed := UInt8 → Option TlvPEntry

/-- The loop of `tlv_parse`, at `ofs`, where `num` elements were parsed; each takes an octet at
least. With the entries comes the number of elements, if there was no error. -/
def tlvParseFrom (d : TlvDefinition) (buf : Octets) :
    ℕ → ℕ → TlvParsed → ℕ → TlvParsed × Option ℕ
  | 0, _, dec, num => (dec, some num)
  | fuel + 1, ofs, dec, num =>
    if buf.length ≤ ofs then (dec, some num)
    else match tlvParseOne d (buf.drop ofs) with
      | none => (dec, none)
      | some (e, taken) => tlvParseFrom d buf fuel (ofs + taken)
          (fun tag => if tag = e.tag then some ⟨ofs + e.ofs, e.len⟩ else dec tag) (num + 1)

/-- `tlv_parse` without tags for values in front. -/
def tlvParse (d : TlvDefinition) (buf : Octets) : TlvParsed × Option ℕ :=
  tlvParseFrom d buf buf.length 0 (fun _ => none) 0

def tlvpVal (dec : TlvParsed) (tag : UInt8) : Option ℕ := (dec tag).map (·.ofs)

def TlvPEntry.value (buf : Octets) (e : TlvPEntry) : Octets := (buf.drop e.ofs).take e.len

/-! ### Putting elements -/

def tvlvMaxOnebyte : ℕ := 0x7f

def tlvGrossLen (len : ℕ) : ℕ := len + 2

def tl16vGrossLen (len : ℕ) : ℕ := len + 3

def tvlvGrossLen (len : ℕ) : ℕ :=
  if len ≤ tvlvMaxOnebyte then tlvGrossLen len else tl16vGrossLen len

def vPut (val : UInt8) : Octets := [val]

def tvPut (tag val : UInt8) : Octets := [tag, val]

def tvFixedPut (tag : UInt8) (val : Octets) : Octets := tag :: val

def tlvPut (tag : UInt8) (val : Octets) : Octets := tag :: UInt8.ofNat val.length :: val

def tl16vPut (tag : UInt8) (val : Octets) : Octets := tag :: (htons val.length ++ val)

def tvlvPut (tag : UInt8) (val : Octets) : Octets :=
  if val.length ≤ tvlvMaxOnebyte then tag :: (UInt8.ofNat val.length ||| 0x80) :: val
  else tl16vPut tag val

/-- `msgb_put` of `len` octets, and what is written at the pointer that it returns. -/
def msgbPut (msg : Octets) (len : ℕ) (written : Octets) : Octets := msg ++ written.takeD len 0

def msgbVPut (msg : Octets) (val : UInt8) : Octets := msgbPut msg 1 (vPut val)

def msgbTvPut (msg : Octets) (tag val : UInt8) : Octets := msgbPut msg 2 (tvPut tag val)

def msgbTvFixedPut (msg : Octets) (tag : UInt8) (val : Octets) : Octets :=
  msgbPut msg (1 + val.length) (tvFixedPut tag val)

def msgbTlvPut (msg : Octets) (tag : UInt8) (val : Octets) : Octets :=
  msgbPut msg (tlvGrossLen val.length) (tlvPut tag val)

def msgbTl16vPut (msg : Octets) (tag : UInt8) (val : Octets) : Octets :=
  msgbPut msg (tl16vGrossLen val.length) (tl16vPut tag val)

def msgbTvlvPut (msg : Octets) (tag : UInt8) (val : Octets) : Octets :=
  msgbPut msg (tvlvGrossLen val.length) (tvlvPut tag val)

/-- The function that appends an element whose tag is of a type; an element in one octet is put
as it is. -/
def msgbElementPut (d : TlvDefinition) (msg : Octets) (tag : UInt8) (val : Octets) : Octets :=
  match d tag with
  | .none => msg
  | .singleTv => msgbVPut msg (octet val 0)
  | .t => msgbVPut msg tag
  | .tv => msgbTvPut msg tag (octet val 0)
  | .fixed _ => msgbTvFixedPut msg tag val
  | .tlv => msgbTlvPut msg tag val
  | .tl16v => msgbTl16vPut msg tag val
  | .tvLv => msgbTvlvPut msg tag val

/-- The message with the elements behind it, one after the other. -/
def msgbPutAll (d : TlvDefinition) (msg : Octets) (items : List (UInt8 × Octets)) : Octets :=
  items.foldl (fun msg i => msgbElementPut d msg i.1 i.2) msg

def Puttable (d : TlvDefinition) (tag : UInt8) (val : Octets) : Prop :=
  match d tag with
  | .none => False
  | .singleTv => val.length = 1 ∧ octet val 0 &&& 0xf0 = tag
  | .t => val = [] ∧ d (tag &&& 0xf0) ≠ .singleTv
  | .tv => val.length = 1 ∧ d (tag &&& 0xf0) ≠ .singleTv
  | .fixed len => val.length = len ∧ d (tag &&& 0xf0) ≠ .singleTv
  | .tlv => val.length < 256 ∧ d (tag &&& 0xf0) ≠ .singleTv
  | .tl16v => val.length < 65536 ∧ d (tag &&& 0xf0) ≠ .singleTv
  | .tvLv => val.length < 32768 ∧ d (tag &&& 0xf0) ≠ .singleTv

def elementOctets (d : TlvDefinition) (tag : UInt8) (val : Octets) : Octets :=
  match d tag with
  | .none => []
  | .singleTv => val
  | .t | .tv | .fixed _ => tag :: val
  | .tlv => tlvPut tag val
  | .tl16v => tl16vPut tag val
  | .tvLv => tvlvPut tag val

theorem msgbPut_eq (msg : Octets) {len : ℕ} {written : Octets} (h : written.length = len) :
    msgbPut msg len written = msg ++ written := by
  unfold msgbPut
  rw [List.takeD_eq_take 0 (Nat.le_of_eq h.symm), List.take_of_length_le (Nat.le_of_eq h)]

/-- The room that is asked for is the room that is taken. -/
theorem msgbElementPut_eq {d : TlvDefinition} {tag : UInt8} {val : Octets}
    (hval : Puttable d tag val) (msg : Octets) :
    msgbElementPut d msg tag val = msg ++ elementOctets d tag val := by
  unfold Puttable at hval
  unfold msgbElementPut elementOctets
  cases htype : d tag with
  | none =>
    rw [htype] at hval
    exact hval.elim
  | singleTv =>
    rw [htype] at hval
    obtain ⟨o, rfl⟩ := List.length_eq_one_iff.1 hval.1
    rfl
  | t =>
    rw [htype] at hval
    rw [hval.1]
    rfl
  | tv =>
    rw [htype] at hval
    obtain ⟨o, rfl⟩ := List.length_eq_one_iff.1 hval.1
    rfl
  | fixed len => exact msgbPut_eq msg (Nat.add_comm val.length 1)
  | tlv => exact msgbPut_eq msg rfl
  | tl16v =>
    refine msgbPut_eq msg ?_
    simp only [tl16vPut, tl16vGrossLen, List.length_cons, List.length_append, length_htons]
    omega
  | tvLv =>
    refine msgbPut_eq msg ?_
    unfold tvlvPut tvlvGrossLen
    split
    · rfl
    · simp only [tl16vPut, tl16vGrossLen, List.length_cons, List.length_append, length_htons]
      omega

theorem msgbPutAll_eq {d : TlvDefinition} {items : List (UInt8 × Octets)}
    (hitems : ∀ i ∈ items, Puttable d i.1 i.2) (msg : Octets) :
    msgbPutAll d msg items = msg ++ items.flatMap fun i => elementOctets d i.1 i.2 := by
  induction items generalizing msg with
  | nil => exact (List.append_nil msg).symm
  | cons item items ih =>
    rw [List.forall_mem_cons] at hitems
    have hrest := ih hitems.2 (msg ++ elementOctets d item.1 item.2)
    rw [List.append_assoc] at hrest
    rw [List.flatMap_cons, ← hrest, ← msgbElementPut_eq hitems.1]
    rfl

/-! ### Parsing what was put -/

/-- The element in front is found, with its value, and all of it is taken. -/
def FoundInFront (d : TlvDefinition) (tag : UInt8) (val buf : Octets) (taken : ℕ) : Prop :=
  ∃ e : TlvElement, tlvParseOne d buf = some (e, taken) ∧ e.tag = tag ∧ e.value buf = val

section Found
variable {d : TlvDefinition} {tag : UInt8} {val : Octets}

theorem value_behind (front rest : Octets) :
    (⟨tag, front.length, val.length⟩ : TlvElement).value (front ++ (val ++ rest)) = val := by
  rw [TlvElement.value, List.drop_left, List.take_left]

theorem lengthValue_front (front rest : Octets) :
    lengthValue (front ++ (val ++ rest)) tag front.length val.length =
      some (⟨tag, front.length, val.length⟩, front.length + val.length) := by
  have hroom : ¬(front ++ (val ++ rest)).length < front.length + val.length := by
    simp only [List.length_append]
    omega
  rw [lengthValue, if_neg hroom]

/-- Behind a length of one octet. -/
theorem lengthValue_short (o : UInt8) (rest : Octets) :
    lengthValue (tag :: o :: val ++ rest) tag 2 val.length =
      some (⟨tag, 2, val.length⟩, (tag :: o :: val).length) := by
  have hfront := @lengthValue_front tag val [tag, o] rest
  have htaken : (tag :: o :: val).length = 2 + val.length := by
    rw [List.length_cons, List.length_cons]
    omega
  rw [htaken]
  exact hfront

theorem found_tlv (hlen : val.length < 256) (rest : Octets) :
    tlvParseTyped .tlv tag (tlvPut tag val ++ rest) =
      some (⟨tag, 2, val.length⟩, (tlvPut tag val).length) := by
  have hoctet : (UInt8.ofNat val.length).toNat = val.length := UInt8.toNat_ofNat_of_lt' hlen
  change lengthValue _ tag 2 (UInt8.ofNat val.length).toNat = _
  rw [hoctet]
  exact lengthValue_short _ rest

theorem found_tl16v (hlen : val.length < 65536) (rest : Octets) :
    tlvParseTyped .tl16v tag (tl16vPut tag val ++ rest) =
        some (⟨tag, 3, val.length⟩, (tl16vPut tag val).length) ∧
      (⟨tag, 3, val.length⟩ : TlvElement).value (tl16vPut tag val ++ rest) = val := by
  have hsplit : tl16vPut tag val ++ rest = (tag :: htons val.length) ++ (val ++ rest) := by
    rw [tl16vPut, List.cons_append, List.cons_append, List.append_assoc]
  have htaken : (tl16vPut tag val).length = 3 + val.length := by
    rw [tl16vPut, List.length_cons, List.length_append, length_htons]
    omega
  have hread : ntohs ((tag :: htons val.length) ++ (val ++ rest)) 1 = val.length :=
    (ntohs_append_right [tag] (htons val.length ++ (val ++ rest)) 0).trans (ntohs_htons hlen _)
  have hlong : ¬((tag :: htons val.length) ++ (val ++ rest)).length < 2 := by
    rw [List.length_append, List.length_cons, length_htons]
    omega
  rw [hsplit, htaken]
  refine ⟨?_, value_behind (tag :: htons val.length) rest⟩
  simp only [tlvParseTyped, hlong, if_false, hread]
  exact lengthValue_front (tag :: htons val.length) rest

theorem tlvParseOne_of_type {type : TlvType} (htype : d tag = type)
    (hsingle : d (tag &&& 0xf0) ≠ .singleTv) (body : Octets) :
    tlvParseOne d (tag :: body) = tlvParseTyped type tag (tag :: body) := by
  change (if d (tag &&& 0xf0) = .singleTv then _ else tlvParseTyped (d tag) tag _) = _
  rw [if_neg hsingle, htype]

/-- The top bit of the length octet tells the short form from the long one. -/
theorem short_length {n : ℕ} (hn : n ≤ 127) :
    (UInt8.ofNat n ||| 0x80) &&& 0x80 ≠ 0 ∧ ((UInt8.ofNat n ||| 0x80) &&& 0x7f).toNat = n := by
  have hall : ∀ k : Fin 128, (UInt8.ofNat k ||| 0x80) &&& 0x80 ≠ 0 ∧
      ((UInt8.ofNat k ||| 0x80) &&& 0x7f).toNat = k := by
    decide
  exact hall ⟨n, Nat.lt_succ_of_le hn⟩

theorem long_length {n : ℕ} (hn : n < 32768) : UInt8.ofNat (n / 256) &&& 0x80 = 0 := by
  have hall : ∀ k : Fin 128, UInt8.ofNat k &&& 0x80 = 0 := by decide
  exact hall ⟨n / 256, by omega⟩

theorem found_tvlv (hlen : val.length < 32768) (rest : Octets) :
    ∃ e : TlvElement, tlvParseTyped .tvLv tag (tvlvPut tag val ++ rest) =
      some (e, (tvlvPut tag val).length) ∧ e.tag = tag ∧
        e.value (tvlvPut tag val ++ rest) = val := by
  by_cases hshort : val.length ≤ tvlvMaxOnebyte
  · obtain ⟨hbit, hoctet⟩ := short_length hshort
    rw [tvlvPut, if_pos hshort]
    refine ⟨⟨tag, 2, val.length⟩, ?_, rfl, value_behind [tag, _] rest⟩
    change (if (UInt8.ofNat val.length ||| 0x80) &&& 0x80 ≠ 0 then
      lengthValue _ tag 2 ((UInt8.ofNat val.length ||| 0x80) &&& 0x7f).toNat else _) = _
    rw [if_pos hbit, hoctet]
    exact lengthValue_short _ rest
  · rw [tvlvPut, if_neg hshort]
    have hwide : val.length < 65536 := by omega
    obtain ⟨hfound, hvalue⟩ := @found_tl16v tag val hwide rest
    exact ⟨⟨tag, 3, val.length⟩, (if_neg (not_not.2 (long_length hlen))).trans hfound, rfl, hvalue⟩

theorem found_of_put (hval : Puttable d tag val) (rest : Octets) :
    FoundInFront d tag val (elementOctets d tag val ++ rest) (elementOctets d tag val).length := by
  unfold Puttable at hval
  unfold elementOctets
  cases htype : d tag with
  | none =>
    rw [htype] at hval
    exact hval.elim
  | singleTv =>
    rw [htype] at hval
    obtain ⟨hlen, htag⟩ := hval
    obtain ⟨o, rfl⟩ := List.length_eq_one_iff.1 hlen
    have hone : o &&& 0xf0 = tag := htag
    have hsingle : d (octet ([o] ++ rest) 0 &&& 0xf0) = .singleTv := by
      change d (o &&& 0xf0) = _
      rw [hone, htype]
    exact ⟨⟨o &&& 0xf0, 0, 1⟩, if_pos hsingle, hone, rfl⟩
  | t =>
    rw [htype] at hval
    obtain ⟨rfl, hsingle⟩ := hval
    exact ⟨⟨tag, 0, 0⟩, tlvParseOne_of_type htype hsingle rest, rfl, rfl⟩
  | tv =>
    rw [htype] at hval
    obtain ⟨hlen, hsingle⟩ := hval
    obtain ⟨o, rfl⟩ := List.length_eq_one_iff.1 hlen
    exact ⟨⟨tag, 1, 1⟩, tlvParseOne_of_type htype hsingle (o :: rest), rfl, rfl⟩
  | fixed len =>
    rw [htype] at hval
    obtain ⟨rfl, hsingle⟩ := hval
    exact ⟨⟨tag, 1, val.length⟩, tlvParseOne_of_type htype hsingle (val ++ rest), rfl,
      value_behind [tag] rest⟩
  | tlv =>
    rw [htype] at hval
    obtain ⟨hlen, hsingle⟩ := hval
    exact ⟨⟨tag, 2, val.length⟩, (tlvParseOne_of_type htype hsingle _).trans (found_tlv hlen rest),
      rfl, value_behind [tag, UInt8.ofNat val.length] rest⟩
  | tl16v =>
    rw [htype] at hval
    obtain ⟨hlen, hsingle⟩ := hval
    obtain ⟨hfound, hvalue⟩ := found_tl16v hlen rest
    exact ⟨⟨tag, 3, val.length⟩, (tlvParseOne_of_type htype hsingle _).trans hfound, rfl, hvalue⟩
  | tvLv =>
    rw [htype] at hval
    obtain ⟨hlen, hsingle⟩ := hval
    obtain ⟨e, hfound, htag, hvalue⟩ := found_tvlv hlen rest
    have hhead : ∃ body, tvlvPut tag val ++ rest = tag :: body := by
      unfold tvlvPut
      split <;> exact ⟨_, rfl⟩
    obtain ⟨body, hbody⟩ := hhead
    refine ⟨e, ?_, htag, hvalue⟩
    rw [← hfound, hbody]
    exact tlvParseOne_of_type htype hsingle body

theorem elementOctets_ne_nil (hval : Puttable d tag val) : elementOctets d tag val ≠ [] := by
  unfold Puttable at hval
  unfold elementOctets
  cases htype : d tag with
  | none =>
    rw [htype] at hval
    exact hval.elim
  | singleTv =>
    rw [htype] at hval
    exact List.ne_nil_of_length_eq_add_one hval.1
  | tvLv =>
    dsimp only
    unfold tvlvPut
    split <;> exact List.cons_ne_nil _ _
  | _ => exact List.cons_ne_nil _ _

theorem tlvParseFrom_end {buf : Octets} {ofs : ℕ} (h : buf.length ≤ ofs) (fuel : ℕ)
    (dec : TlvParsed) (num : ℕ) : tlvParseFrom d buf fuel ofs dec num = (dec, some num) := by
  cases fuel with
  | zero => rfl
  | succ fuel => rw [tlvParseFrom, if_pos h]

/-- An element with a length of 16 bits that fills a message. -/
theorem tlvpVal_tl16v (htype : d tag = .tl16v) (hsingle : d (tag &&& 0xf0) ≠ .singleTv)
    (hlen : val.length < 65536) : tlvpVal (tlvParse d (tl16vPut tag val)).1 tag = some 3 := by
  have hone : tlvParseOne d (tl16vPut tag val) =
      some (⟨tag, 3, val.length⟩, (tl16vPut tag val).length) := by
    have hfound := (@found_tl16v tag val hlen []).1
    rw [List.append_nil] at hfound
    exact (tlvParseOne_of_type htype hsingle _).trans hfound
  have hmore : ¬(tl16vPut tag val).length ≤ 0 := Nat.not_le.2 (Nat.succ_pos _)
  change tlvpVal (tlvParseFrom d _ ((htons val.length ++ val).length + 1) 0 _ 0).1 tag = _
  rw [tlvParseFrom, if_neg hmore, List.drop_zero, hone]
  dsimp only
  rw [tlvParseFrom_end (Nat.le_of_eq (Nat.zero_add _).symm)]
  simp [tlvpVal]

/-- The loop of the parser takes the element that it stands in front of. -/
theorem tlvParseFrom_next (hval : Puttable d tag val) (front rest : Octets) (fuel : ℕ)
    (dec : TlvParsed) (num : ℕ) :
    ∃ entry : TlvPEntry, entry.value (front ++ (elementOctets d tag val ++ rest)) = val ∧
      tlvParseFrom d (front ++ (elementOctets d tag val ++ rest)) (fuel + 1) front.length dec num =
        tlvParseFrom d (front ++ (elementOctets d tag val ++ rest)) fuel
          (front ++ elementOctets d tag val).length
          (fun t => if t = tag then some entry else dec t) (num + 1) := by
  obtain ⟨e, hfound, rfl, hvalue⟩ := found_of_put hval rest
  have hmore : ¬(front ++ (elementOctets d e.tag val ++ rest)).length ≤ front.length := by
    have hpos := List.length_pos_iff.2 (elementOctets_ne_nil hval)
    simp only [List.length_append]
    omega
  refine ⟨⟨front.length + e.ofs, e.len⟩, ?_, ?_⟩
  · rw [TlvPEntry.value, List.drop_length_add_append]
    exact hvalue
  · rw [tlvParseFrom, if_neg hmore, List.drop_left, hfound, List.length_append]

end Found

/-- The loop of the parser stands in front of the elements that are still to come. -/
theorem tlvParseFrom_put (d : TlvDefinition) (front : Octets) (items : List (UInt8 × Octets))
    (hitems : ∀ i ∈ items, Puttable d i.1 i.2) (fuel : ℕ) (hfuel : items.length ≤ fuel)
    (dec : TlvParsed) (num : ℕ) :
    let buf := front ++ items.flatMap fun i => elementOctets d i.1 i.2
    let r := tlvParseFrom d buf fuel front.length dec num
    r.2 = some (num + items.length) ∧ ∀ tag, (r.1 tag).map (TlvPEntry.value buf) =
      (items.reverse.lookup tag).or ((dec tag).map (TlvPEntry.value buf)) := by
  induction items generalizing front fuel dec num with
  | nil =>
    dsimp only
    rw [tlvParseFrom_end (Nat.le_of_eq (by rw [List.flatMap_nil, List.append_nil]))]
    exact ⟨rfl, fun tag => rfl⟩
  | cons item items ih =>
    obtain ⟨tag, val⟩ := item
    rw [List.forall_mem_cons] at hitems
    cases fuel with
    | zero => exact absurd hfuel (Nat.not_succ_le_zero _)
    | succ fuel =>
      obtain ⟨entry, hvalue, hnext⟩ := tlvParseFrom_next hitems.1 front
        (items.flatMap fun i => elementOctets d i.1 i.2) fuel dec num
      have hrest := ih (front ++ elementOctets d tag val) hitems.2 fuel
        (Nat.le_of_succ_le_succ hfuel) (fun t => if t = tag then some entry else dec t) (num + 1)
      rw [List.append_assoc] at hrest
      obtain ⟨hnum, hentries⟩ := hrest
      dsimp only
      rw [List.flatMap_cons, hnext]
      refine ⟨hnum.trans ?_, fun t => (hentries t).trans ?_⟩
      · rw [List.length_cons]
        congr 1
        omega
      · rw [List.reverse_cons, List.lookup_append, Option.or_assoc]
        congr 1
        by_cases ht : t = tag
        · subst ht
          rw [if_pos rfl, Option.map_some, hvalue]
          simp
        · rw [if_neg ht]
          simp [List.lookup_cons, beq_eq_false_iff_ne.2 ht]

/-- What is put into a message under a definition is parsed under it: as many elements, and for
each tag the value that was put last. -/
theorem tlvParse_put (d : TlvDefinition) (items : List (UInt8 × Octets))
    (hitems : ∀ i ∈ items, Puttable d i.1 i.2) :
    (tlvParse d (msgbPutAll d [] items)).2 = some items.length ∧
      ∀ tag, ((tlvParse d (msgbPutAll d [] items)).1 tag).map
        (TlvPEntry.value (msgbPutAll d [] items)) = items.reverse.lookup tag := by
  have hfuel : items.length ≤ (items.flatMap fun i => elementOctets d i.1 i.2).length := by
    induction items with
    | nil => exact Nat.le_refl 0
    | cons item items ih =>
      rw [List.forall_mem_cons] at hitems
      have hpos := List.length_pos_iff.2 (elementOctets_ne_nil hitems.1)
      have htail := ih hitems.2
      simp only [List.flatMap_cons, List.length_append, List.length_cons]
      omega
  obtain ⟨hnum, hentries⟩ := tlvParseFrom_put d [] items hitems _ hfuel (fun _ => none) 0
  rw [msgbPutAll_eq hitems]
  refine ⟨hnum.trans (congrArg some (Nat.zero_add _)), fun tag => (hentries tag).trans ?_⟩
  exact Option.or_none

end ImsiCatcher

import ImsiCatcher.LogLines
import ImsiCatcher.PagingRequest
import ImsiCatcher.PchReadings
import Mathlib.Algebra.GroupWithZero.Nat

/-!
# The pagings that a scan counts

What `gsm48_rx_ccch` prints for a paging request, and what `PCHThread.run` counts of it. The
length checks ask for one octet more than the message needs, and the optional identity of a
request of type 1 is looked for one octet too late.
-/

namespace ImsiCatcher

/-! ### Texts that report identities -/

/-- What a line tells of the identity that is paged. -/
def told (line : Text) : Text := Text.behind " to ".toList line

def Reports (t : Text) (names : List Text) : Prop :=
  ∃ ws, t = logText ws ∧ ws.map (fun w => told (w ++ ['\n'])) = names ∧
    ∀ w ∈ ws, IsEntry w ∧ PchCounts.isPaging w = true

theorem reports_nil : Reports [] [] := ⟨[], rfl, rfl, by simp⟩

theorem Reports.append {t t' : Text} {names names' : List Text} (h : Reports t names)
    (h' : Reports t' names') : Reports (t ++ t') (names ++ names') := by
  obtain ⟨ws, rfl, rfl, hws⟩ := h
  obtain ⟨ws', rfl, rfl, hws'⟩ := h'
  refine ⟨ws ++ ws', (logText_append ws ws').symm, List.map_append, fun w hw => ?_⟩
  rcases List.mem_append.1 hw with hw | hw
  · exact hws w hw
  · exact hws' w hw

theorem seesEntries_isPaging : SeesEntries PchCounts.isPaging :=
  seesEntries_contains (by decide) (by decide) (by decide) (by decide)

theorem told_resetColor {w : Text} (hw : IsEntry w) :
    told (resetColor ++ w ++ ['\n']) = told (w ++ ['\n']) := by
  have hesc : '\x1b' ∉ " to ".toList := by decide
  obtain ⟨v, rfl, -⟩ := hw.exists_cons
  have hfront : Text.contains " to ".toList [] = false := by decide
  have hfirst := Text.behind_append_cons_of_notMem hesc hfront (v ++ ['\n'])
  unfold told
  rw [List.append_assoc, List.cons_append, Text.behind_append_cons_of_notMem hesc (by decide)]
  exact hfirst.symm

/-- The names are told in the lines about pagings. -/
theorem Reports.told_lines {t : Text} {names : List Text} (h : Reports t names) :
    ((Text.lines t).filter PchCounts.isPaging).map told = names := by
  obtain ⟨ws, rfl, rfl, hws⟩ := h
  have hall : ws.filter PchCounts.isPaging = ws :=
    List.filter_eq_self.2 fun w hw => (hws w hw).2
  rw [read_lines_logText seesEntries_isPaging (fun w hw => told_resetColor hw)
    fun w hw => (hws w hw).1, hall]

theorem Reports.countP_lines {t : Text} {names : List Text} (h : Reports t names) :
    (Text.lines t).countP PchCounts.isPaging = names.length := by
  rw [← h.told_lines, List.length_map, List.countP_eq_length_filter]

/-! ### The printed texts -/

theorem newline_notMem_pagPrintMode (mode : ℕ) : '\n' ∉ (pagPrintMode mode).toList := by
  unfold pagPrintMode
  split <;> decide

theorem newline_notMem_chanNeed (need : ℕ) : '\n' ∉ (chanNeed need).toList := by
  unfold chanNeed
  split <;> decide

theorem newline_notMem_miTypeToString (type : UInt8) : '\n' ∉ (miTypeToString type).toList := by
  unfold miTypeToString
  repeat' split
  all_goals decide

theorem newline_ne_osmoBcd2char (o : UInt8) (lo : ℕ) : '\n' ≠ osmoBcd2char (bits o lo 4) := by
  have hlt : bits o lo 4 < 16 := Nat.mod_lt _ (by decide)
  exact (by decide : ∀ d < 16, '\n' ≠ osmoBcd2char d) _ hlt

theorem newline_notMem_miDigits (mi : Octets) (len i : ℕ) : '\n' ∉ miDigits mi len i := by
  unfold miDigits
  rw [List.mem_cons, not_or]
  refine ⟨newline_ne_osmoBcd2char _ _, ?_⟩
  split
  · rw [List.mem_singleton]
    exact newline_ne_osmoBcd2char _ _
  · exact List.not_mem_nil

theorem newline_notMem_gsm48MiToString (mi : Octets) (len : ℕ) :
    '\n' ∉ gsm48MiToString mi len := by
  unfold gsm48MiToString
  dsimp only
  split
  · split
    · exact Text.newline_notMem_decimal _
    · exact List.not_mem_nil
  · split
    · rw [List.mem_cons, not_or]
      refine ⟨newline_ne_osmoBcd2char _ _, fun h => ?_⟩
      obtain ⟨i, _, hi⟩ := List.mem_flatMap.1 h
      exact newline_notMem_miDigits mi len i hi
    · exact List.not_mem_nil

theorem newline_notMem_tmsiText (m : Octets) (i : ℕ) : '\n' ∉ tmsiText m i := by
  unfold tmsiText
  rw [List.mem_append, not_or]
  exact ⟨by decide, Text.newline_notMem_hex _⟩

/-- What a channel is needed for, as far as it is printed. -/
def IsNeed (need : Text) : Prop := need = "n/a ".toList ∨ ∃ k, need = (chanNeed k).toList

theorem isNeed_cneed1 (m : Octets) : IsNeed (cneed1 m) := Or.inr ⟨_, rfl⟩

theorem isNeed_cneed2 (m : Octets) : IsNeed (cneed2 m) := Or.inr ⟨_, rfl⟩

theorem isNeed_na : IsNeed "n/a ".toList := Or.inl rfl

theorem newline_notMem_need {need : Text} (h : IsNeed need) : '\n' ∉ need := by
  rcases h with rfl | ⟨k, rfl⟩
  · decide
  · exact newline_notMem_chanNeed k

/-- In front of the name there is no other word "to". -/
theorem contains_front (mode : ℕ) {need : Text} (h : IsNeed need) :
    Text.contains " to ".toList (' ' :: (pagPrintMode mode).toList ++ " chan ".toList ++ need ++
      " to".toList) = false := by
  rcases h with rfl | ⟨k, rfl⟩
  · unfold pagPrintMode
    split <;> decide
  · unfold pagPrintMode chanNeed
    split <;> split <;> decide

section line
variable {label : String} (hlabel : '\n' ∉ label.toList)
  (hpaging : Text.contains "Paging".toList label.toList = true) {line : ℕ}
  (hcall : Text.contains " to ".toList (Text.decimal line ++ ' ' :: label.toList) = false)
  (m : Octets) {need : Text} (hneed : IsNeed need)
include hlabel hpaging hcall hneed

theorem reports_logPaging {target id : Text} (htarget : '\n' ∉ target) (hid : '\n' ∉ id) :
    Reports (logPaging line label m need target id) [identityName target id] := by
  have hmode := newline_notMem_pagPrintMode (bits (octet m 3) 0 2)
  have hneed' := newline_notMem_need hneed
  let text := label.toList ++ ": ".toList ++ (pagPrintMode (bits (octet m 3) 0 2)).toList ++
    " chan ".toList ++ need ++ " to ".toList ++ target ++ " M(".toList ++ id ++ ") ".toList
  have hbreak : '\n' ∉ text := by
    simp only [text, List.mem_append, not_or, hlabel, hmode, hneed', htarget, hid,
      not_false_eq_true, and_true, true_and]
    decide
  have htext : logPaging line label m need target id = logp line (text ++ ['\n']) := by
    unfold logPaging
    simp only [text, List.append_assoc]
    rfl
  have hcontains : Text.contains "Paging".toList text = true := by
    simp only [text, List.append_assoc]
    exact Text.contains_append_left hpaging _
  have htold : told (logEntry line text ++ ['\n']) = identityName target id := by
    have hparts : logEntry line text ++ ['\n'] =
        (drrColor ++ "<0001> pch_scan.c".toList) ++ ':' :: ((Text.decimal line ++
          ' ' :: label.toList) ++ ':' :: ((' ' :: (pagPrintMode (bits (octet m 3) 0 2)).toList ++
            " chan ".toList ++ need) ++ (" to ".toList ++ identityName target id))) := by
      simp [logEntry, text, identityName]
    have hcolon : ':' ∉ " to ".toList := by decide
    rw [hparts, told, Text.behind_append_cons_of_notMem hcolon (by decide),
      Text.behind_append_cons_of_notMem hcolon hcall]
    exact Text.behind_append (by decide) (contains_front _ hneed) _
  refine ⟨[logEntry line text], by rw [htext, logp_eq_logText], ?_, fun w hw => ?_⟩
  · rw [List.map_singleton, htold]
  · rw [List.mem_singleton.1 hw]
    exact ⟨isEntry_logEntry line hbreak, contains_logEntry line hcontains⟩

theorem reports_logIdentity (i len : ℕ) :
    Reports (logIdentity line label m need i len) [mobileIdentityName (m.drop i) len] := by
  unfold mobileIdentityName
  rw [octet_drop, Nat.add_zero]
  exact reports_logPaging hlabel hpaging hcall m hneed (newline_notMem_miTypeToString _)
    (newline_notMem_gsm48MiToString _ _)

theorem reports_logTmsi (i : ℕ) :
    Reports (logPaging line label m need "TMSI".toList (tmsiText m i))
      [identityName "TMSI".toList (tmsiText m i)] :=
  reports_logPaging hlabel hpaging hcall m hneed (by decide) (newline_notMem_tmsiText m i)

end line

/-! ### What the functions report of any message -/

theorem identityInside_iff (e : Octets) :
    identityInside e = true ↔
      octet e 0 = gsm48IeMobileId ∧ 3 + (octet e 1).toNat ≤ e.length := by
  rcases e with _ | ⟨tag, _ | ⟨len, _ | ⟨first, more⟩⟩⟩
  · simp [identityInside]
  · simp [identityInside]
    omega
  · simp [identityInside]
    omega
  · simp [identityInside, octet]
    omega

theorem identityInside_drop_iff (m : Octets) (k : ℕ) :
    identityInside (m.drop k) = true ↔
      octet m k = gsm48IeMobileId ∧ k + 3 + (octet m (k + 1)).toNat ≤ m.length := by
  rw [identityInside_iff, octet_drop, octet_drop, List.length_drop]
  exact and_congr_right fun _ => by omega

theorem identityOneBehind_drop_iff (m : Octets) (k : ℕ) :
    identityOneBehind (m.drop k) = true ↔
      (octet m (k + 1) = gsm48IeMobileId ∧
        octet m (k + 1 + 2) &&& gsmMiTypeMask ≠ gsmMiTypeNone) ∧
      k + 1 + 3 + (octet m (k + 1 + 1)).toNat ≤ m.length := by
  have hcons : identityOneBehind (m.drop k) = true ↔ identityInside (m.drop (k + 1)) = true ∧
      octet (m.drop (k + 1)) 2 &&& gsmMiTypeMask ≠ gsmMiTypeNone := by
    rw [← List.tail_drop]
    cases m.drop k with
    | nil => simp [identityOneBehind, identityInside]
    | cons o e => simp [identityOneBehind]
  rw [hcons, identityInside_drop_iff, octet_drop]
  exact and_right_comm

theorem elementName_drop (m : Octets) (k : ℕ) :
    elementName (m.drop k) = mobileIdentityName (m.drop (k + 2)) (octet m (k + 1)).toNat := by
  rw [elementName, List.drop_drop, octet_drop]

theorem reports_gsm48RxPagingP1 (m : Octets) :
    Reports (gsm48RxPagingP1 m)
      (if m.length ≤ 5 + (octet m 4).toNat then []
      else (if octet m 5 &&& gsmMiTypeMask = gsmMiTypeNone then []
        else [mobileIdentityName (m.drop 5) (octet m 4).toNat]) ++
        misread (m.drop (5 + (octet m 4).toNat))) := by
  have hbehind := identityOneBehind_drop_iff m (5 + (octet m 4).toNat)
  have hplace : 4 + 2 + (octet m 4).toNat = 5 + (octet m 4).toNat + 1 := by omega
  unfold gsm48RxPagingP1 misread
  dsimp only
  rw [hplace]
  by_cases hshort : m.length ≤ 5 + (octet m 4).toNat
  · rw [if_pos hshort]
    split
    · exact reports_nil
    · rw [if_pos (by omega)]
      exact reports_nil
  · have hroom : ¬ m.length < 4 + 2 := by omega
    have hfirst : ¬ m.length < 5 + (octet m 4).toNat + 1 := by omega
    rw [if_neg hshort, if_neg hroom, if_neg hfirst]
    apply Reports.append
    · by_cases htype : octet m 5 &&& gsmMiTypeMask = gsmMiTypeNone
      · rw [if_neg (not_not.2 htype), if_pos htype]
        exact reports_nil
      · rw [if_pos htype, if_neg htype]
        exact reports_logIdentity (by decide) (by decide) (by decide) m (isNeed_cneed1 m) _ _
    · by_cases hfits : identityOneBehind (m.drop (5 + (octet m 4).toNat)) = true
      · obtain ⟨hidentity, hlen⟩ := hbehind.1 hfits
        rw [if_pos hfits, if_neg (by omega), if_pos hidentity, if_neg (by omega), List.tail_drop,
          elementName_drop]
        exact reports_logIdentity (by decide) (by decide) (by decide) m (isNeed_cneed2 m) _ _
      · rw [if_neg hfits]
        split
        · exact reports_nil
        · split
          · rename_i hidentity
            rw [if_pos (Nat.lt_of_not_le fun hlen => hfits (hbehind.2 ⟨hidentity, hlen⟩))]
            exact reports_nil
          · exact reports_nil

theorem reports_gsm48RxPagingP2 (m : Octets) :
    Reports (gsm48RxPagingP2 m)
      (if m.length < 12 then []
      else [identityName "TMSI".toList (tmsiText m 4), identityName "TMSI".toList (tmsiText m 8)] ++
        if identityInside (m.drop 12) then [elementName (m.drop 12)] else []) := by
  have hinside : identityInside (m.drop 12) = true ↔
      octet m 12 = gsm48IeMobileId ∧ 12 + 3 + (octet m 13).toNat ≤ m.length :=
    identityInside_drop_iff m 12
  unfold gsm48RxPagingP2
  by_cases hshort : m.length < 12
  · rw [if_pos hshort, if_pos hshort]
    exact reports_nil
  · rw [if_neg hshort, if_neg hshort]
    apply Reports.append
    · exact (reports_logTmsi (by decide) (by decide) (by decide) m (isNeed_cneed1 m) 4).append
        (reports_logTmsi (by decide) (by decide) (by decide) m (isNeed_cneed2 m) 8)
    · by_cases hfits : identityInside (m.drop 12) = true
      · obtain ⟨htag, hlen⟩ := hinside.1 hfits
        rw [if_pos hfits, if_neg (by omega), elementName_drop]
        dsimp only
        rw [if_neg (not_not.2 htag), if_neg (by omega)]
        exact reports_logIdentity (by decide) (by decide) (by decide) m isNeed_na _ _
      · rw [if_neg hfits]
        split
        · exact reports_nil
        · dsimp only
          split
          · exact reports_nil
          · rename_i htag
            rw [if_pos (Nat.lt_of_not_le fun hlen => hfits (hinside.2 ⟨not_not.1 htag, hlen⟩))]
            exact reports_nil

theorem reports_gsm48RxPagingP3 (m : Octets) :
    Reports (gsm48RxPagingP3 m)
      (if m.length < 21 then []
      else [identityName "TMSI".toList (tmsiText m 4), identityName "TMSI".toList (tmsiText m 8),
        identityName "TMSI".toList (tmsiText m 12),
        identityName "TMSI".toList (tmsiText m 16)]) := by
  unfold gsm48RxPagingP3
  split
  · exact reports_nil
  · exact (((reports_logTmsi (by decide) (by decide) (by decide) m (isNeed_cneed1 m) 4).append
      (reports_logTmsi (by decide) (by decide) (by decide) m (isNeed_cneed2 m) 8)).append
      (reports_logTmsi (by decide) (by decide) (by decide) m isNeed_na 12)).append
      (reports_logTmsi (by decide) (by decide) (by decide) m isNeed_na 16)

/-! ### The names of identities in a message -/

theorem octet_append_left {os : Octets} {i : ℕ} (h : i < os.length) (rest : Octets) :
    octet (os ++ rest) i = octet os i := by
  unfold octet
  rw [List.getD_eq_getElem?_getD, List.getElem?_append_left h, ← List.getD_eq_getElem?_getD]

theorem gsm48MiToString_append {os : Octets} (hne : os ≠ []) (rest : Octets) :
    gsm48MiToString (os ++ rest) os.length = gsm48MiToString os os.length := by
  have hpos : 0 < os.length := List.length_pos_of_ne_nil hne
  have hdigits : ∀ i ∈ (List.range' 1 (os.length - 1)).filter
      (fun i => 1 + 2 * (i - 1) + 2 < gsm48MiSize),
      miDigits (os ++ rest) os.length i = miDigits os os.length i := by
    intro i hi
    have hrange := List.mem_range'_1.1 (List.mem_of_mem_filter hi)
    have hlt : i < os.length := by omega
    unfold miDigits
    rw [octet_append_left hlt, octet_append_left hpos]
  unfold gsm48MiToString
  rw [octet_append_left hpos, List.flatMap_congr hdigits]
  by_cases hfive : os.length = 5
  · have hntohs : ∀ i < 4, ntohs (os ++ rest) i = ntohs os i := by
      intro i hi
      unfold ntohs
      rw [octet_append_left (by omega), octet_append_left (by omega)]
    rw [hntohs 1 (by decide), hntohs 3 (by decide)]
  · simp only [hfive, false_and, if_false]

theorem MobileIdentity.mobileIdentityName_append (mi : MobileIdentity) (rest : Octets) :
    mobileIdentityName (mi.octets ++ rest) mi.octets.length = mi.name := by
  unfold name mobileIdentityName
  rw [octet_append_left (List.length_pos_of_ne_nil mi.ne_nil),
    gsm48MiToString_append mi.ne_nil]

theorem MobileIdentity.elementName_encode (mi : MobileIdentity) (rest : Octets) :
    elementName (gsm48IeMobileId :: mi.lv ++ rest) = mi.name := by
  have hlen : (octet (gsm48IeMobileId :: mi.lv ++ rest) 1).toNat = mi.octets.length :=
    mi.toNat_length
  unfold elementName
  rw [hlen]
  exact mi.mobileIdentityName_append rest

theorem PagingTail.elementName_encode {t : PagingTail} {mi : MobileIdentity}
    (h : t.identity = some mi) : elementName t.encode = mi.name := by
  unfold encode
  rw [h]
  exact mi.elementName_encode t.rest

/-! ### Paging requests -/

namespace PagingRequest

def reported : PagingRequest → List Text
  | type1 _ first tail =>
    if tail.encode = [] then [] else first.identities ++ misread tail.encode
  | type2 _ tmsi1 tmsi2 tail => [tmsi1.name, tmsi2.name] ++
    if identityInside tail.encode then [elementName tail.encode] else []
  | type3 _ tmsi1 tmsi2 tmsi3 tmsi4 rest =>
    if rest = [] then [] else [tmsi1.name, tmsi2.name, tmsi3.name, tmsi4.name]

theorem reports_type1 (header : PagingHeader) (first : MobileIdentity) (tail : PagingTail) :
    Reports (gsm48RxPagingP1 (type1 header first tail).encode)
      (type1 header first tail).reported := by
  have hlen1 : (octet (type1 header first tail).encode 4).toNat = first.octets.length :=
    first.toNat_length
  have hfront : (header.encode 0x21 ++ first.lv).length = 5 + first.octets.length := by
    simp [PagingHeader.encode, MobileIdentity.lv]
    omega
  have hlength : (type1 header first tail).encode.length =
      5 + first.octets.length + tail.encode.length := by
    rw [← hfront, ← List.length_append]
    rfl
  have hdrop : (type1 header first tail).encode.drop (5 + first.octets.length) = tail.encode := by
    rw [← hfront]
    exact List.drop_left
  have hfive : (type1 header first tail).encode.drop 5 = first.octets ++ tail.encode := rfl
  have htype : octet (type1 header first tail).encode 5 = octet first.octets 0 := by
    obtain ⟨o, os, ho⟩ := List.exists_cons_of_ne_nil first.ne_nil
    simp [encode, PagingHeader.encode, MobileIdentity.lv, octet, ho]
  have hreports := reports_gsm48RxPagingP1 (type1 header first tail).encode
  have hfirst : first.identities = if octet first.octets 0 &&& gsmMiTypeMask = gsmMiTypeNone
      then [] else [first.name] := by
    unfold MobileIdentity.identities MobileIdentity.isNone
    simp only [decide_eq_true_eq]
  rw [hlen1, hlength, hdrop, htype, hfive, first.mobileIdentityName_append, ← hfirst] at hreports
  by_cases hnil : tail.encode = []
  · simpa [reported, hnil] using hreports
  · have hpos := List.length_pos_of_ne_nil hnil
    rw [if_neg (by omega)] at hreports
    simpa [reported, hnil] using hreports

theorem reports_type2 (header : PagingHeader) (tmsi1 tmsi2 : Tmsi) (tail : PagingTail) :
    Reports (gsm48RxPagingP2 (type2 header tmsi1 tmsi2 tail).encode)
      (type2 header tmsi1 tmsi2 tail).reported := by
  have hdrop : (type2 header tmsi1 tmsi2 tail).encode.drop 12 = tail.encode := rfl
  have hlength : ¬ (type2 header tmsi1 tmsi2 tail).encode.length < 12 := by
    simp [encode, PagingHeader.encode, Tmsi.encode]
  have hreports := reports_gsm48RxPagingP2 (type2 header tmsi1 tmsi2 tail).encode
  rw [if_neg hlength, hdrop] at hreports
  exact hreports

theorem reports_type3 (header : PagingHeader) (tmsi1 tmsi2 tmsi3 tmsi4 : Tmsi) (rest : Octets) :
    Reports (gsm48RxPagingP3 (type3 header tmsi1 tmsi2 tmsi3 tmsi4 rest).encode)
      (type3 header tmsi1 tmsi2 tmsi3 tmsi4 rest).reported := by
  have hlen : (type3 header tmsi1 tmsi2 tmsi3 tmsi4 rest).encode.length = rest.length + 20 := by
    simp [encode, PagingHeader.encode, Tmsi.encode]
  have hlength : (type3 header tmsi1 tmsi2 tmsi3 tmsi4 rest).encode.length < 21 ↔ rest = [] := by
    rw [hlen, ← List.length_eq_zero_iff]
    omega
  have hreports := reports_gsm48RxPagingP3 (type3 header tmsi1 tmsi2 tmsi3 tmsi4 rest).encode
  simp only [hlength] at hreports
  exact hreports

theorem reports_gsm48RxCcch (subch : UInt8) (m : PagingRequest) :
    Reports (gsm48RxCcch subch m.encode) m.reported := by
  unfold gsm48RxCcch
  cases m with
  | type1 header first tail =>
    have htype : messageType (type1 header first tail).encode = 0x21 := rfl
    rw [htype]
    exact reports_type1 header first tail
  | type2 header tmsi1 tmsi2 tail =>
    have htype : messageType (type2 header tmsi1 tmsi2 tail).encode = 0x22 := rfl
    rw [htype]
    exact reports_type2 header tmsi1 tmsi2 tail
  | type3 header tmsi1 tmsi2 tmsi3 tmsi4 rest =>
    have htype : messageType (type3 header tmsi1 tmsi2 tmsi3 tmsi4 rest).encode = 0x24 := rfl
    rw [htype]
    exact reports_type3 header tmsi1 tmsi2 tmsi3 tmsi4 rest

theorem perm_iff_eq {l l' : List Text} (h' : l'.length ≤ 1) : l.Perm l' ↔ l = l' := by
  rcases l' with _ | ⟨a, _ | ⟨b, l'⟩⟩
  · exact List.perm_nil
  · exact List.perm_singleton
  · simp at h'

/-- The names that are reported are those that are paged, in some order, for the messages that
are readable. -/
theorem reported_perm_iff (m : PagingRequest) : m.reported.Perm m.identities ↔ m.Readable := by
  cases m with
  | type1 header first tail =>
    have hone := tail.identities_length_le_one
    unfold reported identities Readable
    dsimp only
    by_cases hnil : tail.encode = []
    · have hnone : misread [] = [] := rfl
      rw [if_pos hnil, PagingTail.identities_eq_nil_of_nil hnil, hnil, hnone, List.nil_perm]
      simp [MobileIdentity.identities]
    · rw [if_neg hnil, List.perm_append_left_iff, perm_iff_eq hone]
      simp [hnil]
  | type2 header tmsi1 tmsi2 tail =>
    have hone := tail.identities_length_le_one
    unfold reported identities Readable
    dsimp only
    rw [List.perm_append_left_iff, perm_iff_eq hone]
    simp only [tail.identityInside_encode]
    cases hidentity : tail.identity with
    | none => simp [PagingTail.identities, hidentity]
    | some mi =>
      rw [PagingTail.elementName_encode hidentity]
      simp only [PagingTail.identities, hidentity, MobileIdentity.identities]
      by_cases hnone : mi.isNone = true <;> by_cases hrest : tail.rest = [] <;> simp [hnone, hrest]
  | type3 header tmsi1 tmsi2 tmsi3 tmsi4 rest =>
    unfold reported identities Readable
    by_cases hrest : rest = [] <;> simp [hrest]

def EachReported (subch : UInt8) (m : PagingRequest) : Prop :=
  (((Text.lines (gsm48RxCcch subch m.encode)).filter PchCounts.isPaging).map told).Perm
    m.identities

theorem eachReported_iff (subch : UInt8) (m : PagingRequest) :
    m.EachReported subch ↔ m.Readable := by
  unfold EachReported
  rw [(reports_gsm48RxCcch subch m).told_lines]
  exact m.reported_perm_iff

def output (subch : UInt8) (msgs : List PagingRequest) : Text :=
  msgs.flatMap fun m => gsm48RxCcch subch m.encode

theorem reports_output (subch : UInt8) (msgs : List PagingRequest) :
    Reports (output subch msgs) (msgs.flatMap reported) := by
  induction msgs with
  | nil => exact reports_nil
  | cons m msgs ih => exact (reports_gsm48RxCcch subch m).append ih

def paged (msgs : List PagingRequest) : List Text := msgs.flatMap identities

/-- Every identity has its line and the scan counts the identities, exactly if every message is
one of those whose identities are all reported. -/
theorem pagings_counted_iff {w : PchScan} {ls : List Text} (hscan : w.OneScan ls)
    (subch : UInt8) (msgs : List PagingRequest)
    (hread : ls.filter PchCounts.isPaging =
      (Text.lines (output subch msgs)).filter PchCounts.isPaging) :
    ((∀ m ∈ msgs, m.EachReported subch) ∧
        w.Results fun result => result.pagings = (paged msgs).length) ↔
      ∀ m ∈ msgs, m.Readable := by
  have heach : (∀ m ∈ msgs, m.EachReported subch) ↔ ∀ m ∈ msgs, m.Readable :=
    forall₂_congr fun m _ => m.eachReported_iff subch
  rw [heach, and_iff_left_iff_imp]
  intro hreadable
  have hperm : (msgs.flatMap reported).Perm (paged msgs) :=
    List.Perm.flatMap_left msgs fun m hm => m.reported_perm_iff.2 (hreadable m hm)
  rw [hscan.results_iff]
  change ls.countP PchCounts.isPaging = _
  rw [List.countP_eq_length_filter, hread, ← List.countP_eq_length_filter,
    (reports_output subch msgs).countP_lines, hperm.length_eq]

/-- The value part of the IMSI 262012345678901. -/
def imsi : MobileIdentity :=
  ⟨[0x29, 0x26, 0x10, 0x32, 0x54, 0x76, 0x98, 0x10], by decide, by decide⟩

/-- A request of type 1 in a frame of 23 octets: a TMSI, and an IMSI with its tag or padding. -/
def tmsiAndImsi (second : Bool) : PagingRequest :=
  .type1 ⟨0x31, 0x06, 0x21⟩ ⟨[0xf4, 0x01, 0x02, 0x03, 0x04], by decide, by decide⟩
    (if second then ⟨some imsi, List.replicate 3 0x2b, by decide⟩
    else ⟨none, List.replicate 13 0x2b, by decide⟩)

/-- A request of type 2 in a frame of 23 octets: two TMSIs and an IMSI. -/
def twoTmsisAndImsi : PagingRequest :=
  .type2 ⟨0x31, 0x06, 0x22⟩ ⟨0xc0, 0x01, 0x02, 0x03⟩ ⟨0xc0, 0x04, 0x05, 0x06⟩
    ⟨some imsi, [0x2b], by decide⟩

theorem pagings_counted_iff_imsi :
    (∀ m ∈ [tmsiAndImsi false, twoTmsisAndImsi], m.EachReported 0) ∧
      (PchScan.ofLines 5 (Text.lines (output 0 [tmsiAndImsi false, twoTmsisAndImsi]))).Results
        fun result => result.pagings = 4 :=
  (pagings_counted_iff (PchScan.oneScan_ofLines (by decide +kernel) (by decide +kernel)) 0
    [tmsiAndImsi false, twoTmsisAndImsi] rfl).2 (by decide)

/-- The IMSI is not reported. -/
theorem not_eachReported_imsi :
    ¬ ((∀ m ∈ [tmsiAndImsi true], m.EachReported 0) ∧
      (PchScan.ofLines 5 (Text.lines (output 0 [tmsiAndImsi true]))).Results
        fun result => result.pagings = 2) := by
  rintro ⟨heach, _⟩
  have htwo : (tmsiAndImsi true).EachReported 0 := heach _ List.mem_cons_self
  have hone : (((Text.lines (gsm48RxCcch 0 (tmsiAndImsi true).encode)).filter
      PchCounts.isPaging).map told).length = 1 := by decide +kernel
  have hlength := htwo.length_eq
  rw [hone] at hlength
  exact absurd hlength (by decide)

end PagingRequest
end ImsiCatcher

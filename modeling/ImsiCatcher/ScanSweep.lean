import ImsiCatcher.Rearrangement
import ImsiCatcher.ScanSafety

/-!
# The power table and the sweep over it

The levels that the phone measures reach the power table of the scanner in messages, band by
band. What is on its way, or still in the message that the phone fills, completes the table to
what was measured since the table was cleared last; and what the phone has yet to measure
completes that to the bands that were asked for. Outside a measurement nothing is on its way, so
that the sweep goes over a complete table, and it selects from it, from the strongest level down.
-/

namespace ImsiCatcher

open OrderStatistics

def bandArfcns (band : ℕ × ℕ) : List ℕ := List.range' band.1 (band.2 + 1 - band.1)

def sweepArfcns : List ℕ := Catcher.scanBands.flatMap bandArfcns

/-- A level in dBm, as `signal_cb` stores it. -/
def levelOf (m : ℕ × UInt8) : ℤ := (m.2 - 110).toInt8.toInt

/-- What was measured since the power table was cleared, and what was tuned to. -/
structure Sweep where
  levels : List (ℕ × UInt8) := []
  tuned : List ℕ := []

namespace Sweep

def note (w : Sweep) : ScanOut → Sweep
  | .radio (.level arfcn rxlev) => { w with levels := w.levels ++ [(arfcn, rxlev)] }
  | .scanner (.readBandRange 0) => {}
  | .scanner (.fbsbReq arfcn) => { w with tuned := w.tuned ++ [arfcn] }
  | _ => w

def noteAct (w : Sweep) : Exploration.Act ℕ → Sweep
  | .wipe => {}
  | .visit arfcn => { w with tuned := w.tuned ++ [arfcn] }

theorem note_scanner (w : Sweep) (out : List CatcherOut) :
    (out.map .scanner).foldl note w = (out.filterMap Catcher.act).foldl noteAct w := by
  induction out generalizing w with
  | nil => rfl
  | cons o out ih =>
    rw [List.map_cons, List.foldl_cons, ih, List.filterMap_cons]
    cases o with
    | readBandRange index => cases index <;> rfl
    | _ => rfl

end Sweep

def sweepOf (out : List ScanOut) : Sweep := out.foldl Sweep.note {}

def heardLevels (heard : List Radio) : List (ℕ × UInt8) := heard.filterMap fun
  | .level arfcn rxlev => some (arfcn, rxlev)
  | .block _ _ => none

theorem Sweep.note_radio (w : Sweep) (heard : List Radio) :
    (heard.map .radio).foldl note w = { w with levels := w.levels ++ heardLevels heard } := by
  induction heard generalizing w with
  | nil => rw [heardLevels, List.filterMap_nil, List.append_nil]; rfl
  | cons r heard ih =>
    rw [List.map_cons, List.foldl_cons, ih]
    cases r with
    | level arfcn rxlev =>
      change { w with levels := w.levels ++ [(arfcn, rxlev)] ++ heardLevels heard } =
        { w with levels := w.levels ++ (arfcn, rxlev) :: heardLevels heard }
      rw [List.append_assoc, List.singleton_append]
    | block arfcn data => rfl

/-! ### The table -/

/-- The measured levels of a power table. -/
def levelTable (pm : ℕ → PmInfo) (arfcn : ℕ) : Option Int8 :=
  if (pm arfcn).flagPm then some (pm arfcn).rxlev else none

def noteLevel (table : ℕ → Option Int8) (m : ℕ × UInt8) (arfcn : ℕ) : Option Int8 :=
  if m.1 &&& 0x3ff = arfcn then some (m.2 - 110).toInt8 else table arfcn

namespace Catcher
variable {cfg : CatcherConfig} {env : Surroundings} {c c' : Catcher}

theorem levelTable_takeLevels (levels : List (ℕ × UInt8)) (c : Catcher) :
    levelTable (c.takeLevels levels).pm = levels.foldl noteLevel (levelTable c.pm) := by
  induction levels generalizing c with
  | nil => rfl
  | cons m levels ih =>
    have hfirst : levelTable (c.pmRes m.1 m.2).pm = noteLevel (levelTable c.pm) m := by
      funext arfcn
      simp only [levelTable, noteLevel, pmRes, eq_comm (a := arfcn)]
      split <;> rfl
    rw [List.foldl_cons, ← hfirst]
    exact ih (c.pmRes m.1 m.2)

theorem synced_takeLevels (levels : List (ℕ × UInt8)) (c : Catcher) :
    synced (c.takeLevels levels).pm = synced c.pm := by
  induction levels generalizing c with
  | nil => rfl
  | cons m levels ih => exact (ih (c.pmRes m.1 m.2)).trans (synced_pmRes c m.1 m.2)

theorem levelTable_mark (pm : ℕ → PmInfo) (a : ℕ) :
    levelTable (fun i => if i = a then { pm i with flagSync := true } else pm i) =
      levelTable pm := by
  funext arfcn
  unfold levelTable
  dsimp only
  split <;> rfl

theorem synced_mark (pm : ℕ → PmInfo) (a : ℕ) :
    synced (fun i => if i = a then { pm i with flagSync := true } else pm i) =
      insert a (synced pm) := by
  ext i
  rw [Set.mem_insert_iff]
  change (if i = a then { pm i with flagSync := true } else pm i).flagSync = true ↔ _
  by_cases hi : i = a
  · simp [hi]
  · simp [hi, synced]

end Catcher

theorem mask_arfcn {a : ℕ} (ha : a < 1024) : a &&& 0x3ff = a := by
  have hall : ∀ k : Fin 1024, k.val &&& 0x3ff = k.val := by decide +kernel
  exact hall ⟨a, ha⟩

/-- The table of levels that were measured once each. -/
theorem noteLevels_eq {levels : List (ℕ × UInt8)} (hnodup : (levels.map Prod.fst).Nodup)
    (hlt : ∀ m ∈ levels, m.1 < 1024) (arfcn : ℕ) (level : Int8) :
    levels.foldl noteLevel (fun _ => none) arfcn = some level ↔
      ∃ rxlev, (arfcn, rxlev) ∈ levels ∧ (rxlev - 110).toInt8 = level := by
  have hkeyed : ∀ table : ℕ → Option Int8, levels.foldl noteLevel table arfcn =
      levels.foldl (fun last m => if m.1 = arfcn then some (m.2 - 110).toInt8 else last)
        (table arfcn) := by
    clear hnodup
    induction levels with
    | nil => exact fun _ => rfl
    | cons m levels ih =>
      rw [List.forall_mem_cons] at hlt
      intro table
      rw [List.foldl_cons, List.foldl_cons, ih hlt.2, noteLevel, mask_arfcn hlt.1]
  rw [hkeyed, Keyed.foldl_eq hnodup, Option.getD_eq_iff]
  simp only [Option.map_eq_some_iff, reduceCtorEq, and_false, or_false, Option.some.injEq]
  constructor
  · rintro ⟨m, hm, rfl⟩
    obtain ⟨hmem, rfl⟩ := (Keyed.find?_eq_some hnodup).1 hm
    exact ⟨m.2, hmem, rfl⟩
  · rintro ⟨rxlev, hmem, rfl⟩
    exact ⟨(arfcn, rxlev), (Keyed.find?_eq_some hnodup).2 ⟨hmem, rfl⟩, rfl⟩

theorem levelTable_eq_some {pm : ℕ → PmInfo} {a : ℕ} {level : Int8}
    (h : levelTable pm a = some level) :
    (pm a).flagPm = true ∧ (pm a).rxlev.toInt = level.toInt := by
  rw [levelTable, Option.ite_none_right_eq_some, Option.some.injEq] at h
  exact ⟨h.1, congrArg Int8.toInt h.2⟩

theorem sweepArfcns_eq :
    sweepArfcns = List.range' 0 125 ++ (List.range' 512 379 ++ List.range' 955 69) := rfl

theorem sweepArfcns_nodup : sweepArfcns.Nodup := by
  rw [sweepArfcns_eq, List.nodup_append, List.nodup_append]
  refine ⟨List.nodup_range', ⟨List.nodup_range', List.nodup_range', ?_⟩, ?_⟩
  · intro a ha b hb
    rw [List.mem_range'_1] at ha hb
    omega
  · intro a ha b hb
    rw [List.mem_append, List.mem_range'_1, List.mem_range'_1] at hb
    rw [List.mem_range'_1] at ha
    omega

theorem sweepArfcns_lt {a : ℕ} (h : a ∈ sweepArfcns) : a < 1024 := by
  rw [sweepArfcns_eq, List.mem_append, List.mem_append, List.mem_range'_1, List.mem_range'_1,
    List.mem_range'_1] at h
  omega

/-! ### What is under way -/

def rangeOf (msg : Octets) : List ℕ :=
  if octet msg 0 = l1ctlPmReq then bandArfcns (ntohs msg 8, ntohs msg 10) else []

theorem rangeOf_side {msg : Octets} (h : SideRequest msg) : rangeOf msg = [] := by
  have hother : octet msg 0 ≠ l1ctlPmReq := by
    cases h with
    | reset => decide
    | ccchMode mode => exact (by decide : l1ctlCcchModeReq ≠ l1ctlPmReq)
    | param ta txPower => exact (by decide : l1ctlParamReq ≠ l1ctlPmReq)
    | rach ra offset combined => exact (by decide : l1ctlRachReq ≠ l1ctlPmReq)
  exact if_neg hother

theorem rangeOf_measure {band : ℕ × ℕ} (hlower : band.1 < 65536) (hupper : band.2 < 65536) :
    rangeOf (Errand.measure band).message = bandArfcns band := by
  have hfrom : ntohs (l1ctlTxPmReqRange band.1 band.2) 8 = band.1 := ntohs_htons hlower []
  have hto : ntohs (l1ctlTxPmReqRange band.1 band.2) 10 = band.2 := ntohs_htons hupper []
  rw [rangeOf]
  change (if l1ctlPmReq = l1ctlPmReq then bandArfcns (ntohs (l1ctlTxPmReqRange band.1 band.2) 8,
    ntohs (l1ctlTxPmReqRange band.1 band.2) 10) else []) = _
  rw [if_pos rfl, hfrom, hto]

theorem rangeOf_tune (arfcn : ℕ) : rangeOf (Errand.tune arfcn).message = [] := by
  change (if l1ctlFbsbReq = l1ctlPmReq then _ else _) = _
  exact if_neg (by decide)

theorem flatMap_rangeOf_side {msgs : List Octets} (h : ∀ m ∈ msgs, SideRequest m) :
    msgs.flatMap rangeOf = [] :=
  List.flatMap_eq_nil_iff.2 fun m hm => rangeOf_side (h m hm)

theorem flatMap_levelsOf_passing {msgs : List Octets} (h : ∀ m ∈ msgs, Passing m) :
    msgs.flatMap levelsOf = [] :=
  List.flatMap_eq_nil_iff.2 fun m hm => levelsOf_passing (h m hm)

namespace Phone

def filled (p : Phone) : List (ℕ × UInt8) :=
  levelsOf (p.pm.msg.getD (l1ctlMsgbAlloc l1ctlPmConf))

def remaining (p : Phone) : List ℕ :=
  match p.tdma with
  | [.pm next] => bandArfcns (next, p.pm.arfcnEnd)
  | _ => []

variable {p p' : Phone} {e : PhoneEvent} {job : Job} {r : Phone × List Octets}

theorem filled_of_none (h : p.pm.msg = none) : p.filled = [] := by
  rw [filled, h]
  decide

end Phone

def Job.Narrow : Job → Prop
  | .rest => True
  | .measure next last filled => next ≤ last ∧ last < 1024 ∧ ∀ m ∈ filled, m.1 < 65536
  | .search arfcn | .found arfcn | .missed arfcn => arfcn < 65536

def Job.filled : Job → List (ℕ × UInt8)
  | .measure _ _ filled => filled
  | _ => []

def Job.remaining : Job → List ℕ
  | .measure next last _ => bandArfcns (next, last)
  | _ => []

namespace Phone
variable {p p' : Phone} {e : PhoneEvent} {job : Job} {r : Phone × List Octets}

theorem Does.filled (h : p.Does job) (hjob : job.Narrow) : p.filled = job.filled := by
  cases job with
  | rest => exact filled_of_none h.2.2
  | measure next last filled =>
    obtain ⟨-, -, -, -, -, hmsg⟩ := h
    rw [Phone.filled, hmsg]
    exact levelsOf_pmConf false hjob.2.2
  | search arfcn => exact filled_of_none h.2.2.1
  | found arfcn => exact filled_of_none h.2.2.1
  | missed arfcn => exact filled_of_none h.2.2.1

theorem Does.remaining (h : p.Does job) : p.remaining = job.remaining := by
  cases job with
  | rest => rw [Phone.remaining, h.1]; rfl
  | measure next last filled =>
    obtain ⟨htdma, -, -, -, hlast, -⟩ := h
    rw [Phone.remaining, htdma, ← hlast]
    rfl
  | search arfcn =>
    rcases h.1 with htdma | htdma | ⟨htdma, -⟩ <;> (rw [Phone.remaining, htdma]; rfl)
  | found arfcn => rw [Phone.remaining, h.1]; rfl
  | missed arfcn => rw [Phone.remaining, h.1]; rfl

theorem bandArfcns_cons {next last : ℕ} (h : next ≤ last) :
    bandArfcns (next, last) = next :: bandArfcns (next + 1, last) := by
  have hlength : last + 1 - next = last + 1 - (next + 1) + 1 := by omega
  rw [bandArfcns, hlength, List.range'_succ]
  rfl

theorem levelsOf_flushed {flushed : List (ℕ × UInt8)} (h : ∀ m ∈ flushed, m.1 < 65536) :
    (if flushed = [] then [] else [pmConf false flushed]).flatMap levelsOf = flushed := by
  by_cases hflushed : flushed = []
  · rw [if_pos hflushed, hflushed]
    rfl
  · rw [if_neg hflushed, List.flatMap_singleton, levelsOf_pmConf false h]

theorem heardLevels_eq_nil {heard : List Radio}
    (h : ∀ arfcn rxlev, Radio.level arfcn rxlev ∉ heard) : heardLevels heard = [] := by
  rw [heardLevels, List.filterMap_eq_nil_iff]
  intro r hr
  cases r with
  | level arfcn rxlev => exact absurd hr (h arfcn rxlev)
  | block arfcn data => rfl

/-- The phone lets out the levels that it hears, in this order, and takes them off what it has to
measure. -/
theorem Proceeds.measures (h : Proceeds p e job r) (hdoes : p.Does job) (hjob : job.Narrow) :
    r.2.flatMap levelsOf ++ r.1.filled = p.filled ++ heardLevels (p.hears e) ∧
      (heardLevels (p.hears e)).map Prod.fst ++ r.1.remaining = p.remaining ∧
      (heardLevels (p.hears e) ≠ [] → ∃ next last filled, job = .measure next last filled) := by
  have hfilled : p.filled = job.filled := hdoes.filled hjob
  have hremaining : p.remaining = job.remaining := hdoes.remaining
  rw [hfilled, hremaining]
  cases h with
  | goesOn does cell level out =>
    have hout : r.2.flatMap levelsOf = [] :=
      flatMap_levelsOf_passing fun m hm => (out m hm).passing
    rw [heardLevels_eq_nil level, hout, does.filled hjob, does.remaining]
    exact ⟨(List.append_nil _).symm, rfl, fun h => absurd rfl h⟩
  | @level next last filled filled' flushed rxlev p' more does heard split =>
    obtain ⟨hle, hlast, hfilled_lt⟩ := hjob
    have hnext : next < last := Nat.lt_of_le_of_ne hle more
    have hall : ∀ m ∈ flushed ++ filled', m.1 < 65536 := by
      rw [split, List.forall_mem_append, List.forall_mem_singleton]
      exact ⟨hfilled_lt, by omega⟩
    rw [List.forall_mem_append] at hall
    have hmask : (next + 1) &&& 0xfbff = next + 1 := Stage.mask_next (by omega)
    rw [hmask] at does
    have hjob' : Job.Narrow (.measure (next + 1) last filled') := ⟨hnext, hlast, hall.2⟩
    have hheard : heardLevels (p.hears e) = [(next, rxlev)] := by
      rw [heard]
      rfl
    rw [hheard, does.filled hjob', does.remaining, levelsOf_flushed hall.1]
    exact ⟨split, (bandArfcns_cons hle).symm, fun _ => ⟨next, last, filled, rfl⟩⟩
  | @measured last filled filled' flushed rxlev p' does heard split =>
    obtain ⟨-, hlast, hfilled_lt⟩ := hjob
    have hall : ∀ m ∈ flushed ++ filled', m.1 < 65536 := by
      rw [split, List.forall_mem_append, List.forall_mem_singleton]
      exact ⟨hfilled_lt, by omega⟩
    rw [List.forall_mem_append] at hall
    have hheard : heardLevels (p.hears e) = [(last, rxlev)] := by
      rw [heard]
      rfl
    have hdone : last + 1 - (last + 1) = 0 := by omega
    rw [hheard, does.filled trivial, does.remaining, List.flatMap_append, levelsOf_flushed hall.1,
      List.flatMap_singleton, levelsOf_pmConf true hall.2]
    refine ⟨(List.append_nil _).trans split, ?_, fun _ => ⟨last, last, filled, rfl⟩⟩
    change [last] ++ [] = bandArfcns (last, last)
    rw [bandArfcns_cons (Nat.le_refl last), bandArfcns, hdone]
    rfl
  | search job_eq does heard =>
    rw [heard]
    refine ⟨?_, ?_, fun h => absurd rfl h⟩
    · rcases job_eq with rfl | rfl | rfl <;> exact does.filled hjob
    · rcases job_eq with rfl | rfl | rfl <;> exact does.remaining
  | @found arfcn p' conf out does cell heard conf_eq out_aside =>
    obtain ⟨snr, bsic, hconf⟩ := conf_eq hjob
    have hout : (conf :: out).flatMap levelsOf = [] := by
      rw [List.flatMap_cons, flatMap_levelsOf_passing fun m hm => (out_aside m hm).passing,
        levelsOf, hconf]
      rfl
    rw [heard, hout, does.filled trivial, does.remaining]
    exact ⟨rfl, rfl, fun h => absurd rfl h⟩
  | @missed arfcn p' conf out does heard conf_eq out_aside =>
    have hout : (conf :: out).flatMap levelsOf = [] := by
      rw [List.flatMap_cons, flatMap_levelsOf_passing fun m hm => (out_aside m hm).passing,
        levelsOf, conf_eq hjob]
      rfl
    rw [heard, hout, does.filled trivial, does.remaining]
    exact ⟨rfl, rfl, fun h => absurd rfl h⟩

/-- A request of which nothing is left over: it is what the phone has to measure then. -/
structure TakesOver (p : Phone) (msg : Octets) : Prop where
  emptied : p.filled = []
  done : p.remaining = []
  silent : (p.l1aL23Handler msg).2.flatMap levelsOf = []
  filled : (p.l1aL23Handler msg).1.filled = []
  remaining : (p.l1aL23Handler msg).1.remaining = rangeOf msg

theorem TakesOver.side {msg : Octets} (hmsg : SideRequest msg) (h : p.Does .rest) :
    p.TakesOver msg := by
  obtain ⟨does, -, out⟩ := handler_side hmsg h
  exact ⟨h.filled trivial, h.remaining,
    flatMap_levelsOf_passing fun m hm => (out m hm).passing, does.filled trivial,
    does.remaining.trans (rangeOf_side hmsg).symm⟩

end Phone

/-! ### What a reaction does to the table -/

def Catcher.bandsAsked (c : Catcher) : List (ℕ × ℕ) :=
  if c.started then
    if c.state = .pm then Catcher.scanBands.take (c.pmIndex + 1) else Catcher.scanBands
  else []

namespace Catcher
variable {cfg : CatcherConfig} {env : Surroundings} {heard : List Radio} {c c' : Catcher}
variable {taken : List (ℕ × UInt8)} {r : Catcher × List CatcherOut}

/-- The levels are taken, and the table is left so, one ARFCN of it is tuned to, or it is
cleared. -/
inductive Sweeps (c : Catcher) (taken : List (ℕ × UInt8)) (r : Catcher × List CatcherOut) : Prop
  | goesOn (more : List (ℕ × ℕ)) (quiet : r.2.filterMap act = [])
      (pm : r.1.pm = (c.takeLevels taken).pm) (state : r.1.state = .pm → c.state = .pm)
      (bands : r.1.bandsAsked = c.bandsAsked ++ more)
      (asked : (messagesOf r.2).flatMap rangeOf = more.flatMap bandArfcns)
  | tunes {a : ℕ} (visit : r.2.filterMap act = [.visit a])
      (chosen : Strongest (c.takeLevels taken).pm a)
      (marked : r.1.pm = fun i =>
        if i = a then { (c.takeLevels taken).pm i with flagSync := true }
        else (c.takeLevels taken).pm i)
      (state : r.1.state = .sync) (bands : r.1.bandsAsked = c.bandsAsked)
      (asked : (messagesOf r.2).flatMap rangeOf = [])
  | restarts (wipe : r.2.filterMap act = [.wipe]) (cleared : r.1.pm = clearedTable)
      (state : r.1.state = .pm) (index : r.1.pmIndex = 0) (started : r.1.started = true)
      (asked : .pmReqRange 0 124 ∈ r.2)

theorem bandsAsked_of_state (hstarted : c.started = true) (hstate : c.state ≠ .pm) :
    c.bandsAsked = scanBands := by
  rw [bandsAsked, if_pos hstarted, if_neg hstate]

theorem bandsAsked_pm (hstarted : c.started = true) (hstate : c.state = .pm) :
    c.bandsAsked = scanBands.take (c.pmIndex + 1) := by
  rw [bandsAsked, if_pos hstarted, if_pos hstate]

theorem bandsAsked_prefix (c : Catcher) : c.bandsAsked <+: scanBands := by
  unfold bandsAsked
  split
  · split
    · exact List.take_prefix _ _
    · exact List.prefix_refl _
  · exact List.nil_prefix

theorem bandsAsked_same (state : c'.state = c.state) (started : c'.started = c.started)
    (pmIndex : c'.pmIndex = c.pmIndex) : c'.bandsAsked = c.bandsAsked := by
  rw [bandsAsked, state, started, pmIndex]
  rfl

theorem act_inCell {out : List CatcherOut} (h : ∀ o ∈ out, o.InCell) :
    out.filterMap act = [] := by
  rw [List.filterMap_eq_nil_iff]
  intro o ho
  have hinCell := h o ho
  cases o with
  | readBandRange index => exact hinCell.elim
  | fbsbReq a => exact hinCell.elim
  | _ => rfl

theorem rangeOf_inCell {out : List CatcherOut} (h : ∀ o ∈ out, o.InCell) :
    (messagesOf out).flatMap rangeOf = [] :=
  flatMap_rangeOf_side (side_messagesOf h)

/-- The bands are measured, and the scanner goes on to the next ARFCN. -/
theorem startSync_sweeps (hpm : c'.pm = (c.takeLevels taken).pm) (hstarted : c'.started = true)
    (hbands : c.bandsAsked = scanBands) {out : List CatcherOut} (hquiet : out.filterMap act = [])
    (hout : (messagesOf out).flatMap rangeOf = []) :
    Sweeps c taken ((c'.startSync cfg env).1, out ++ (c'.startSync cfg env).2) := by
  have hstill : (c'.startSync cfg env).1.started = true :=
    (startSync_started cfg env c').trans hstarted
  rcases startSync_progress cfg env c' with ⟨a, htunes⟩ | hrestarts
  · obtain ⟨line, hasked⟩ := htunes.asked
    have hsync : (c'.startSync cfg env).1.state ≠ .pm := by
      rw [htunes.state]
      decide
    have hvisit : (out ++ (c'.startSync cfg env).2).filterMap act = [.visit a] := by
      rw [List.filterMap_append, hquiet, hasked]
      rfl
    have hsilent : (messagesOf (out ++ (c'.startSync cfg env).2)).flatMap rangeOf = [] := by
      have hmessages : messagesOf (c'.startSync cfg env).2 =
          [l1ctlTxResetReq l1ctlResTFull, (Errand.tune a).message] := by
        rw [hasked]
        rfl
      rw [messagesOf_append, List.flatMap_append, hout, hmessages, List.flatMap_cons,
        List.flatMap_singleton, rangeOf_side .reset, rangeOf_tune]
      rfl
    exact .tunes hvisit (hpm ▸ htunes.chosen) (hpm ▸ htunes.marked) htunes.state
      ((bandsAsked_of_state hstill hsync).trans hbands.symm) hsilent
  · have hwipe : (out ++ (c'.startSync cfg env).2).filterMap act = [.wipe] := by
      rw [List.filterMap_append, hquiet, hrestarts.asked]
      rfl
    have hmem : .pmReqRange 0 124 ∈ out ++ (c'.startSync cfg env).2 := by
      rw [hrestarts.asked]
      simp
    exact .restarts hwipe hrestarts.cleared hrestarts.state hrestarts.index hstill hmem

theorem Attends.sweeps (h : Attends cfg env c r) (attached : c.Attached cfg) : Sweeps c [] r := by
  have hstate : ∀ c : Catcher, c.Attached cfg → c.state ≠ .pm := by
    intro c h
    rcases h.state with hstate | hstate <;> simp [hstate]
  have hbands : ∀ c : Catcher, c.Attached cfg → c.bandsAsked = scanBands :=
    fun c h => bandsAsked_of_state h.started (hstate c h)
  cases h with
  | stay same attached' inCell =>
    have hsame : ∀ {c' : Catcher}, c'.Attached cfg → c'.bandsAsked = c.bandsAsked ++ [] := by
      intro c' h
      rw [hbands c' h, hbands c attached, List.append_nil]
    exact .goesOn [] (act_inCell inCell) same.pm (fun h => absurd h (hstate _ attached'))
      (hsame attached') (rangeOf_inCell inCell)
  | leave same inCell =>
    exact startSync_sweeps same.pm (same.started.trans attached.started) (hbands c attached)
      (act_inCell inCell) (rangeOf_inCell inCell)

/-- The end of a band: the next one is asked for, or the sweep begins. -/
theorem pmDone_sweeps {band : ℕ × ℕ} (hstarted : c.started = true)
    (on : c.On cfg (.measure band)) :
    Sweeps c taken (step cfg (c.takeLevels taken) (.pmDone, env)) := by
  obtain ⟨hstate, hindex, -⟩ := on
  obtain ⟨-, -, hstarted', hindex', -⟩ := takeLevels_keeps taken c
  change Sweeps c taken (startPm cfg (startSync cfg env)
    { c.takeLevels taken with pmIndex := (c.takeLevels taken).pmIndex + 1 })
  rw [hindex']
  unfold startPm
  dsimp only
  have hcases : c.pmIndex = 0 ∨ c.pmIndex = 1 ∨ c.pmIndex = 2 := by omega
  have hgoes : ∀ next : ℕ × ℕ, next.1 < 65536 → next.2 < 65536 →
      scanBands.take (c.pmIndex + 1 + 1) = scanBands.take (c.pmIndex + 1) ++ [next] →
      ∀ line : Text, Sweeps c taken
        ({ c.takeLevels taken with pmIndex := c.pmIndex + 1, state := .pm },
          [.readBandRange (c.pmIndex + 1), .summary line, .resetReq,
            .pmReqRange next.1 next.2]) := by
    intro next hlower hupper htake line
    refine .goesOn [next] rfl rfl (fun _ => hstate) ?_ ?_
    · rw [bandsAsked_pm hstarted hstate, ← htake]
      exact bandsAsked_pm (hstarted'.trans hstarted) rfl
    · change (rangeOf (l1ctlTxResetReq l1ctlResTFull) ++
        (rangeOf (Errand.measure next).message ++ [])) = _
      rw [rangeOf_side .reset, rangeOf_measure hlower hupper, List.flatMap_singleton,
        List.nil_append, List.append_nil]
  rcases hcases with hzero | hone | htwo
  · rw [hzero] at hgoes ⊢
    exact hgoes (512, 890) (by decide) (by decide) rfl _
  · rw [hone] at hgoes ⊢
    exact hgoes (955, 1023) (by decide) (by decide) rfl _
  · rw [htwo]
    have hbands : c.bandsAsked = scanBands := by
      rw [bandsAsked_pm hstarted hstate, htwo]
      rfl
    have hpm : ({ c.takeLevels taken with pmIndex := 3, state := .pm } : Catcher).pm =
        (c.takeLevels taken).pm := rfl
    exact startSync_sweeps hpm (hstarted'.trans hstarted) hbands rfl rfl

/-- What a step of the scanner makes of the table and of the bands. -/
theorem Reacts.sweeps (h : Reacts cfg env heard c taken r) : Sweeps c taken r := by
  cases h with
  | waits hw =>
    refine .goesOn [] rfl hw.pm (fun h => hw.state ▸ h) ?_ rfl
    rw [List.append_nil]
    exact bandsAsked_same hw.state hw.started hw.pmIndex
  | levels =>
    obtain ⟨hstate, -, hstarted, hindex, -⟩ := takeLevels_keeps taken c
    refine .goesOn [] rfl rfl (fun h => hstate ▸ h) ?_ rfl
    rw [List.append_nil]
    exact bandsAsked_same hstate hstarted hindex
  | starts unstarted =>
    have hstep : step cfg c (.reset, env) = startPm cfg (startSync cfg env)
        { c with started := true, pm := fun _ => {}, pmIndex := 0, syncCount := 0 } :=
      if_neg (by rw [unstarted]; exact Bool.false_ne_true)
    rw [hstep, startPm_first _ rfl]
    exact .restarts rfl rfl rfl rfl rfl (by simp)
  | measured started on => exact pmDone_sweeps started on
  | found bsic started on =>
    have hread : (step cfg c (.fbsbResp bsic, env)).1.state ≠ .pm := by
      change ScanState.read ≠ .pm
      decide
    have hsync : c.state ≠ .pm := by
      rw [on.1]
      decide
    refine .goesOn [] rfl rfl (fun h => absurd h hread) ?_ rfl
    rw [List.append_nil, bandsAsked_of_state started hsync]
    exact bandsAsked_of_state started hread
  | missed started on =>
    have hsync : c.state ≠ .pm := by
      rw [on.1]
      decide
    have hpm : c.pm = (c.takeLevels []).pm := rfl
    have hsweeps : Sweeps c [] ((c.startSync cfg env).1, [] ++ (c.startSync cfg env).2) :=
      startSync_sweeps hpm started (bandsAsked_of_state started hsync) rfl rfl
    exact hsweeps
  | aside attached record haside => exact (aside_attends attached haside).sweeps attached
  | timer attached record => exact (timer_attends attached).sweeps attached

end Catcher

/-! ### The system -/

namespace ScanSystem

def coming (s : ScanSystem) : List (ℕ × UInt8) := s.down.flatMap levelsOf ++ s.phone.filled

def remaining (s : ScanSystem) : List ℕ := s.phone.remaining ++ s.up.flatMap rangeOf

/-- The table, what is on its way to it and what has still to be measured belong to a sweep. -/
structure Keeps (s : ScanSystem) (w : Sweep) : Prop where
  table : s.coming.foldl noteLevel (levelTable s.host.pm) = w.levels.foldl noteLevel fun _ => none
  bands : w.levels.map Prod.fst ++ s.remaining = s.host.bandsAsked.flatMap bandArfcns
  marks : ∀ a, a ∈ Catcher.synced s.host.pm ↔ a ∈ w.tuned
  early : s.host.state = .pm → w.tuned = []
  order : ∃ swept, swept.map Prod.fst = w.tuned ∧ Selects levelOf w.levels swept ∧
    ∀ m ∈ swept, minRxlev ≤ levelOf m

theorem Keeps.front {s : ScanSystem} {w : Sweep} (h : s.Keeps w) :
    w.levels.map Prod.fst <+: sweepArfcns := by
  obtain ⟨behind, hbehind⟩ := s.host.bandsAsked_prefix
  refine ⟨s.remaining ++ behind.flatMap bandArfcns, ?_⟩
  rw [← List.append_assoc, h.bands, ← List.flatMap_append, hbehind]
  rfl

end ScanSystem

namespace Stage
variable {cfg : CatcherConfig} {heard : List Radio} {s s' : ScanSystem} {w : Sweep}
variable {taken : List (ℕ × UInt8)} {r : Catcher × List CatcherOut}

theorem coming_eq (hdown : ∀ m ∈ s.down, Passing m) {job : Job} (hphone : s.phone.Does job)
    (hjob : job.Narrow) : s.coming = job.filled := by
  rw [ScanSystem.coming, flatMap_levelsOf_passing hdown, hphone.filled hjob]
  rfl

theorem remaining_eq {job : Job} (hphone : s.phone.Does job) :
    s.remaining = job.remaining ++ s.up.flatMap rangeOf := by
  rw [ScanSystem.remaining, hphone.remaining]

/-- Outside a measurement no level is on its way, and none is asked for. -/
theorem nothing_coming (h : Stage cfg heard s) (hstate : s.host.state ≠ .pm) :
    s.coming = [] ∧ s.remaining = [] := by
  cases h with
  | starting host state up phone down coming => exact absurd state hstate
  | @asked errand front host on up front_side phone down =>
    refine ⟨coming_eq down phone trivial, ?_⟩
    cases errand with
    | measure band => exact absurd on.1 hstate
    | tune arfcn =>
      rw [remaining_eq phone, up, List.flatMap_append, flatMap_rangeOf_side front_side,
        List.flatMap_singleton, rangeOf_tune]
      rfl
  | measuring host on up phone range filled_lt down => exact absurd on.1 hstate
  | measured host on up phone down front_passing levels_lt back_passing =>
    exact absurd on.1 hstate
  | @searching arfcn job host on up job_eq phone down =>
    have hnarrow : arfcn < 65536 := Nat.lt_trans on.2.2.1 (by decide)
    rw [remaining_eq phone, up]
    rcases job_eq with rfl | rfl | rfl
    · exact ⟨coming_eq down phone hnarrow, rfl⟩
    · exact ⟨coming_eq down phone hnarrow, rfl⟩
    · exact ⟨coming_eq down phone hnarrow, rfl⟩
  | searched host on up phone down front_passing answer =>
    obtain ⟨-, hbehind⟩ := isAnswer_tuneAnswer answer
    rw [remaining_eq phone, up, ScanSystem.coming, down, List.flatMap_append, List.flatMap_cons,
      flatMap_levelsOf_passing front_passing, flatMap_levelsOf_passing hbehind,
      levelsOf_tuneAnswer answer, phone.filled trivial]
    exact ⟨rfl, rfl⟩
  | attached attached arfcn record up phone cell down =>
    rw [remaining_eq phone, flatMap_rangeOf_side up]
    exact ⟨coming_eq (fun m hm => (down m hm).passing) phone trivial, rfl⟩

/-- While a band is asked for, no level is on its way. -/
theorem asked_band (h : Stage cfg heard s) (hasked : s.up.flatMap rangeOf ≠ []) :
    s.coming = [] ∧ s.remaining = bandArfcns (bandRange cfg s.host.pmIndex) := by
  cases h with
  | starting host state up phone down coming => exact absurd (flatMap_rangeOf_side up) hasked
  | @asked errand front host on up front_side phone down =>
    have hrange : s.up.flatMap rangeOf = rangeOf errand.message := by
      rw [up, List.flatMap_append, flatMap_rangeOf_side front_side, List.flatMap_singleton]
      rfl
    cases errand with
    | measure band =>
      have hbounds := band_bounds on
      refine ⟨coming_eq down phone trivial, ?_⟩
      rw [remaining_eq phone, hrange, rangeOf_measure (by omega) (by omega), on.2.2]
      rfl
    | tune arfcn => exact absurd (hrange.trans (rangeOf_tune arfcn)) hasked
  | measuring host on up phone range filled_lt down => exact absurd (by rw [up]; rfl) hasked
  | measured host on up phone down front_passing levels_lt back_passing =>
    exact absurd (by rw [up]; rfl) hasked
  | searching host on up job_eq phone down => exact absurd (by rw [up]; rfl) hasked
  | searched host on up phone down front_passing answer => exact absurd (by rw [up]; rfl) hasked
  | attached attached arfcn record up phone cell down =>
    exact absurd (flatMap_rangeOf_side up) hasked

theorem started_of_state (h : Stage cfg heard s) (hstate : s.host.state ≠ .pm) :
    s.host.started = true := by
  cases h with
  | starting host state up phone down coming => exact absurd state hstate
  | attached attached arfcn record up phone cell down => exact attached.started
  | asked host on up front_side phone down => exact host
  | measuring host on up phone range filled_lt down => exact host
  | measured host on up phone down front_passing levels_lt back_passing => exact host
  | searching host on up job_eq phone down => exact host
  | searched host on up phone down front_passing answer => exact host

theorem phone_does (h : Stage cfg heard s) : ∃ job, s.phone.Does job ∧ job.Narrow ∧
    ∀ next last filled, job = .measure next last filled → s.host.state = .pm := by
  have hrest : ∀ next last filled, Job.rest = .measure next last filled → s.host.state = .pm :=
    fun _ _ _ h => by cases h
  cases h with
  | starting host state up phone down coming => exact ⟨.rest, phone, trivial, hrest⟩
  | asked host on up front_side phone down => exact ⟨.rest, phone, trivial, hrest⟩
  | measuring host on up phone range filled_lt down =>
    exact ⟨_, phone, ⟨range, (band_bounds on).2, filled_lt⟩, fun _ _ _ _ => on.1⟩
  | measured host on up phone down front_passing levels_lt back_passing =>
    exact ⟨.rest, phone, trivial, hrest⟩
  | @searching arfcn job host on up job_eq phone down =>
    have hnarrow : arfcn < 65536 := Nat.lt_trans on.2.2.1 (by decide)
    refine ⟨job, phone, ?_, ?_⟩
    · rcases job_eq with rfl | rfl | rfl <;> exact hnarrow
    · rintro next last filled rfl
      simp at job_eq
  | searched host on up phone down front_passing answer => exact ⟨.rest, phone, trivial, hrest⟩
  | attached attached arfcn record up phone cell down => exact ⟨.rest, phone, trivial, hrest⟩

theorem phone_keeps (h : Stage cfg heard s) (hkeeps : s.Keeps w) (e : PhoneEvent) :
    (s.step cfg (.phone e)).1.Keeps ((s.step cfg (.phone e)).2.foldl Sweep.note w) := by
  obtain ⟨job, hdoes, hnarrow, hjob⟩ := h.phone_does
  obtain ⟨hfilled, hremaining, hmeasure⟩ :=
    (Phone.step_proceeds hdoes e).measures hdoes hnarrow
  change ScanSystem.Keeps
    { s with phone := (s.phone.step e).1, down := s.down ++ (s.phone.step e).2 }
    (((s.phone.hears e).map .radio).foldl Sweep.note w)
  rw [Sweep.note_radio]
  refine ⟨?_, ?_, hkeeps.marks, hkeeps.early, ?_⟩
  · have hcoming : (s.down ++ (s.phone.step e).2).flatMap levelsOf ++ (s.phone.step e).1.filled =
        s.coming ++ heardLevels (s.phone.hears e) := by
      rw [List.flatMap_append, List.append_assoc, hfilled, ← List.append_assoc]
      rfl
    change ((s.down ++ (s.phone.step e).2).flatMap levelsOf ++
      (s.phone.step e).1.filled).foldl noteLevel _ = _
    rw [hcoming, List.foldl_append, hkeeps.table, List.foldl_append]
  · change (w.levels ++ heardLevels (s.phone.hears e)).map Prod.fst ++
      ((s.phone.step e).1.remaining ++ s.up.flatMap rangeOf) = _
    rw [← hkeeps.bands, ScanSystem.remaining, ← hremaining, List.map_append]
    simp only [List.append_assoc]
  · by_cases hnone : heardLevels (s.phone.hears e) = []
    · rw [hnone, List.append_nil]
      exact hkeeps.order
    · obtain ⟨next, last, filled, hmeasures⟩ := hmeasure hnone
      have hearly : w.tuned = [] := hkeeps.early (hjob next last filled hmeasures)
      exact ⟨[], hearly.symm, Selects.nil _ _, List.forall_mem_nil _⟩

/-- A request that the phone takes is what it has to measure then. -/
theorem handler_takes (h : Stage cfg heard s) {msg : Octets} {up : List Octets}
    (hs : s.up = msg :: up) : s.phone.TakesOver msg := by
  have hmem : msg ∈ s.up := by
    rw [hs]
    exact List.mem_cons_self
  cases h with
  | starting host state up_side phone down coming => exact .side (up_side msg hmem) phone
  | attached attached arfcn record up_side phone cell down => exact .side (up_side msg hmem) phone
  | @asked errand front host on up_eq front_side phone down =>
    rw [hs] at up_eq
    cases front with
    | cons first front =>
      rw [List.cons_append, List.cons.injEq] at up_eq
      obtain ⟨rfl, -⟩ := up_eq
      exact .side (front_side msg List.mem_cons_self) phone
    | nil =>
      rw [List.nil_append, List.cons.injEq] at up_eq
      obtain ⟨rfl, -⟩ := up_eq
      cases errand with
      | measure band =>
        have hbounds := band_bounds on
        have hlower : band.1 < 65536 := by omega
        have hupper : band.2 < 65536 := by omega
        obtain ⟨does, out⟩ := Phone.handler_measure phone hlower hupper
        have hnarrow : Job.Narrow (.measure band.1 band.2 []) :=
          ⟨by omega, hbounds.2, List.forall_mem_nil _⟩
        have hsilent : (s.phone.l1aL23Handler (Errand.measure band).message).2.flatMap levelsOf =
            [] := congrArg (List.flatMap levelsOf) out
        exact ⟨phone.filled trivial, phone.remaining, hsilent, does.filled hnarrow,
          does.remaining.trans (rangeOf_measure hlower hupper).symm⟩
      | tune arfcn =>
        have hnarrow : arfcn < 65536 := Nat.lt_trans on.2.2.1 (by decide)
        obtain ⟨does, out⟩ := Phone.handler_search phone hnarrow 100 0 ccchModeNone
        have hjob : Job.Narrow (.search arfcn) := hnarrow
        have hsilent : (s.phone.l1aL23Handler (Errand.tune arfcn).message).2.flatMap levelsOf =
            [] := congrArg (List.flatMap levelsOf) out
        exact ⟨phone.filled trivial, phone.remaining, hsilent, does.filled hjob,
          does.remaining.trans (rangeOf_tune arfcn).symm⟩
  | measuring host on up_nil phone range filled_lt down =>
    exact absurd (hs.symm.trans up_nil) (List.cons_ne_nil _ _)
  | measured host on up_nil phone down front_passing levels_lt back_passing =>
    exact absurd (hs.symm.trans up_nil) (List.cons_ne_nil _ _)
  | searching host on up_nil job_eq phone down =>
    exact absurd (hs.symm.trans up_nil) (List.cons_ne_nil _ _)
  | searched host on up_nil phone down front_passing answer =>
    exact absurd (hs.symm.trans up_nil) (List.cons_ne_nil _ _)

theorem handler_keeps (h : Stage cfg heard s) (hkeeps : s.Keeps w) :
    (s.step cfg .handler).1.Keeps ((s.step cfg .handler).2.foldl Sweep.note w) := by
  unfold ScanSystem.step
  dsimp only
  cases hs : s.up with
  | nil => exact hkeeps
  | cons msg up =>
    have htakes : s.phone.TakesOver msg := h.handler_takes hs
    refine ⟨?_, ?_, hkeeps.marks, hkeeps.early, hkeeps.order⟩
    · have hcoming : (s.down ++ (s.phone.l1aL23Handler msg).2).flatMap levelsOf ++
          (s.phone.l1aL23Handler msg).1.filled = s.coming := by
        rw [ScanSystem.coming, List.flatMap_append, htakes.silent, htakes.filled, htakes.emptied,
          List.append_nil]
      exact (congrArg (List.foldl noteLevel _) hcoming).trans hkeeps.table
    · have hremaining : (s.phone.l1aL23Handler msg).1.remaining ++ up.flatMap rangeOf =
          s.remaining := by
        rw [ScanSystem.remaining, htakes.remaining, htakes.done, hs, List.flatMap_cons,
          List.nil_append]
      exact (congrArg (w.levels.map Prod.fst ++ ·) hremaining).trans hkeeps.bands

/-- The scanner tunes to a strongest one of the ARFCNs that are left. -/
theorem order_taken (hselects : ∃ swept, swept.map Prod.fst = w.tuned ∧
      Selects levelOf w.levels swept ∧ ∀ m ∈ swept, minRxlev ≤ levelOf m)
    (hlevels : w.levels.map Prod.fst = sweepArfcns) {pm : ℕ → PmInfo}
    (htable : levelTable pm = w.levels.foldl noteLevel fun _ => none)
    (hmarks : ∀ a, a ∈ Catcher.synced pm ↔ a ∈ w.tuned) {a : ℕ} (hchosen : Strongest pm a) :
    ∃ swept, swept.map Prod.fst = w.tuned ++ [a] ∧ Selects levelOf w.levels swept ∧
      ∀ m ∈ swept, minRxlev ≤ levelOf m := by
  obtain ⟨swept, hswept, hselected, hlevel⟩ := hselects
  have hnodup : (w.levels.map Prod.fst).Nodup := hlevels ▸ sweepArfcns_nodup
  have hlt : ∀ m ∈ w.levels, m.1 < 1024 :=
    fun m hm => sweepArfcns_lt (hlevels ▸ List.mem_map_of_mem hm)
  have hentry : ∀ m ∈ w.levels, (pm m.1).flagPm = true ∧ (pm m.1).rxlev.toInt = levelOf m := by
    intro m hm
    have hnoted : levelTable pm m.1 = some (m.2 - 110).toInt8 := by
      rw [htable]
      exact (noteLevels_eq hnodup hlt _ _).2 ⟨m.2, hm, rfl⟩
    exact levelTable_eq_some hnoted
  have hmeasured : ∃ rxlev, (a, rxlev) ∈ w.levels := by
    have hflag : levelTable pm a = some (pm a).rxlev := if_pos hchosen.unsynced.1
    rw [htable, noteLevels_eq hnodup hlt] at hflag
    exact hflag.imp fun _ h => h.1
  obtain ⟨rxlev, hmem⟩ := hmeasured
  have hnew : a ∉ w.tuned := fun h => hchosen.unsynced.2 ((hmarks a).2 h)
  have hunswept : (a, rxlev) ∉ swept := fun h => hnew (hswept ▸ List.mem_map_of_mem h)
  have hlevel_a : (pm a).rxlev.toInt = levelOf (a, rxlev) := (hentry _ hmem).2
  have hlargest : ∀ m ∈ w.levels, m ∉ swept → levelOf m ≤ levelOf (a, rxlev) := by
    intro m hm hleft
    have hunmarked : ¬(pm m.1).flagSync = true := by
      intro hmark
      have htuned : m.1 ∈ swept.map Prod.fst := hswept ▸ (hmarks m.1).1 hmark
      obtain ⟨m', hm', hsame⟩ := List.mem_map.1 htuned
      have heq : m' = m := List.inj_on_of_nodup_map hnodup (hselected.mem hm') hm hsame
      exact hleft (heq ▸ hm')
    obtain ⟨hflag, hrxlev⟩ := hentry m hm
    rw [← hrxlev, ← hlevel_a]
    exact hchosen.maximal m.1 (hlt m hm) ⟨hflag, hunmarked⟩
  refine ⟨swept ++ [(a, rxlev)], ?_, ?_, ?_⟩
  · rw [List.map_append, hswept]
    rfl
  · exact hselected.take (List.Nodup.of_map _ hnodup) hmem hunswept hlargest
  · rw [List.forall_mem_append, List.forall_mem_singleton]
    exact ⟨hlevel, hlevel_a ▸ hchosen.level⟩

/-- The scanner reacts, and what it asks for is on its way. -/
theorem react_keeps (h : Stage cfg heard s') (hkeeps : s.Keeps w) (hhost : s'.host = r.1)
    (hup : s'.up = s.up ++ messagesOf r.2) (hphone : s'.phone = s.phone)
    (hcoming : s.coming = taken ++ s'.coming) (hsweeps : Catcher.Sweeps s.host taken r) :
    s'.Keeps ((r.2.map .scanner).foldl Sweep.note w) := by
  have htaken : s'.coming.foldl noteLevel (levelTable (s.host.takeLevels taken).pm) =
      w.levels.foldl noteLevel fun _ => none := by
    rw [Catcher.levelTable_takeLevels, ← List.foldl_append, ← hcoming]
    exact hkeeps.table
  have hremaining : s'.remaining = s.remaining ++ (messagesOf r.2).flatMap rangeOf := by
    rw [ScanSystem.remaining, hphone, hup, List.flatMap_append, ← List.append_assoc]
    rfl
  have hmarks : ∀ a, a ∈ Catcher.synced (s.host.takeLevels taken).pm ↔ a ∈ w.tuned := by
    rw [Catcher.synced_takeLevels]
    exact hkeeps.marks
  rw [Sweep.note_scanner]
  cases hsweeps with
  | goesOn more quiet pm state bands asked =>
    rw [quiet]
    refine ⟨?_, ?_, ?_, ?_, hkeeps.order⟩
    · rw [hhost, pm]
      exact htaken
    · rw [hremaining, asked, hhost, bands, List.flatMap_append, ← List.append_assoc]
      exact congrArg (· ++ more.flatMap bandArfcns) hkeeps.bands
    · rw [hhost, pm]
      exact hmarks
    · intro hpm
      exact hkeeps.early (state (hhost ▸ hpm))
  | @tunes a visit chosen marked state bands asked =>
    have hstate : s'.host.state ≠ .pm := by
      rw [hhost, state]
      decide
    obtain ⟨hempty, hnone⟩ := h.nothing_coming hstate
    rw [hempty] at htaken
    have hbands : w.levels.map Prod.fst ++ s'.remaining =
        r.1.bandsAsked.flatMap bandArfcns := by
      rw [hremaining, asked, List.append_nil, bands]
      exact hkeeps.bands
    have hstarted : r.1.started = true := hhost ▸ h.started_of_state hstate
    have hall : w.levels.map Prod.fst = sweepArfcns := by
      rw [hnone, List.append_nil] at hbands
      rw [hbands, Catcher.bandsAsked_of_state hstarted (hhost ▸ hstate)]
      rfl
    rw [visit]
    refine ⟨?_, ?_, ?_, fun hpm => absurd hpm hstate, ?_⟩
    · rw [hempty, hhost, marked, Catcher.levelTable_mark]
      exact htaken
    · rw [hhost]
      exact hbands
    · intro b
      rw [hhost, marked, Catcher.synced_mark, Set.mem_insert_iff, hmarks]
      change b = a ∨ b ∈ w.tuned ↔ b ∈ w.tuned ++ [a]
      rw [List.mem_append, List.mem_singleton, or_comm]
    · exact order_taken hkeeps.order hall htaken hmarks chosen
  | restarts wipe cleared state index started asked =>
    have hasked : s'.up.flatMap rangeOf ≠ [] := by
      have hmessage : l1ctlTxPmReqRange 0 124 ∈ s'.up := by
        rw [hup, List.mem_append]
        exact Or.inr (List.mem_flatMap.2 ⟨_, asked, List.mem_singleton.2 rfl⟩)
      have hzero : 0 ∈ s'.up.flatMap rangeOf := by
        refine List.mem_flatMap.2 ⟨_, hmessage, ?_⟩
        change 0 ∈ rangeOf (Errand.measure (0, 124)).message
        rw [rangeOf_measure (by decide) (by decide)]
        decide
      exact List.ne_nil_of_mem hzero
    obtain ⟨hempty, hband⟩ := h.asked_band hasked
    have hcleared : levelTable clearedTable = fun _ => none := rfl
    rw [wipe]
    refine ⟨?_, ?_, ?_, fun _ => rfl, [], rfl, Selects.nil _ _, List.forall_mem_nil _⟩
    · rw [hempty, hhost, cleared, hcleared]
      rfl
    · rw [hband, hhost, index, Catcher.bandsAsked_pm started state, index]
      rfl
    · intro a
      rw [hhost, cleared]
      exact iff_of_false Bool.false_ne_true List.not_mem_nil

theorem keeps_step (h : Stage cfg heard s) (hkeeps : s.Keeps w) (e : ScanEvent) :
    (s.step cfg e).1.Keeps ((s.step cfg e).2.foldl Sweep.note w) := by
  have hstage := h.step e
  cases e with
  | phone e => exact h.phone_keeps hkeeps e
  | handler => exact h.handler_keeps hkeeps
  | timer env =>
    exact react_keeps hstage hkeeps rfl rfl rfl rfl (h.timer_reacts env).sweeps
  | recv env =>
    change Stage cfg _ (s.step cfg (.recv env)).1 at hstage
    unfold ScanSystem.step at hstage ⊢
    dsimp only at hstage ⊢
    cases hs : s.down with
    | nil => exact hkeeps
    | cons msg rest =>
      rw [hs] at hstage
      have hcoming : s.coming = levelsOf msg ++ (rest.flatMap levelsOf ++ s.phone.filled) := by
        rw [ScanSystem.coming, hs, List.flatMap_cons, List.append_assoc]
      exact react_keeps hstage hkeeps rfl rfl rfl hcoming (h.recv_reacts hs env).sweeps

theorem keeps_run (cfg : CatcherConfig) (booted : Bool) (es : List ScanEvent) :
    ((scanSystem cfg).run (ScanSystem.start booted) es).1.Keeps
      (sweepOf ((scanSystem cfg).run (ScanSystem.start booted) es).2) := by
  refine (history (J := fun s out => s.Keeps (sweepOf out)) ?_ ?_ booted es).2
  · intro booted
    have hcoming : (ScanSystem.start booted).coming = [] := by
      cases booted <;> decide
    have hremaining : (ScanSystem.start booted).remaining = [] := by
      cases booted <;> decide
    refine ⟨?_, ?_, ?_, fun _ => rfl, [], rfl, Selects.nil _ _, List.forall_mem_nil _⟩
    · rw [hcoming]
      rfl
    · rw [hremaining]
      rfl
    · exact fun a => iff_of_false Bool.false_ne_true List.not_mem_nil
  · intro s out e hstage hkeeps
    rw [sweepOf, List.foldl_append]
    exact hstage.keeps_step hkeeps e

end Stage

/-- What the phone has measured since the power table was cleared is a front part of the three
bands, each ARFCN once and in order. Outside a measurement it is all of them, and the table holds
a level for exactly these ARFCNs, each the one that was measured. -/
theorem scan_measures (cfg : CatcherConfig) (booted : Bool) (es : List ScanEvent) :
    let r := (scanSystem cfg).run (ScanSystem.start booted) es
    (sweepOf r.2).levels.map Prod.fst <+: sweepArfcns ∧
      (r.1.host.state ≠ .pm → (sweepOf r.2).levels.map Prod.fst = sweepArfcns ∧
        ∀ arfcn level, levelTable r.1.host.pm arfcn = some level ↔
          ∃ rxlev, (arfcn, rxlev) ∈ (sweepOf r.2).levels ∧ (rxlev - 110).toInt8 = level) := by
  have hstage := Stage.run cfg booted es
  have hkeeps := Stage.keeps_run cfg booted es
  generalize (scanSystem cfg).run (ScanSystem.start booted) es = r at hstage hkeeps
  refine ⟨hkeeps.front, fun hstate => ?_⟩
  obtain ⟨hempty, hnone⟩ := hstage.nothing_coming hstate
  have hall : (sweepOf r.2).levels.map Prod.fst = sweepArfcns := by
    have hbands := hkeeps.bands
    rw [hnone, List.append_nil, Catcher.bandsAsked_of_state (hstage.started_of_state hstate)
      hstate] at hbands
    exact hbands
  have htable := hkeeps.table
  rw [hempty] at htable
  refine ⟨hall, fun arfcn level => ?_⟩
  change levelTable r.1.host.pm = _ at htable
  rw [htable]
  exact noteLevels_eq (hall ▸ sweepArfcns_nodup)
    (fun m hm => sweepArfcns_lt (hall ▸ List.mem_map_of_mem hm)) arfcn level

/-- The ARFCNs that are tuned to between two clearings of the table are selected from what was
measured, from the strongest level down: none of those left is stronger, none comes twice, and none
lies below the least level. -/
theorem scan_tunes_strongest (cfg : CatcherConfig) (booted : Bool) (es : List ScanEvent) :
    let w := sweepOf ((scanSystem cfg).run (ScanSystem.start booted) es).2
    w.tuned.Nodup ∧ ∃ swept, swept.map Prod.fst = w.tuned ∧ Selects levelOf w.levels swept ∧
      ∀ m ∈ swept, minRxlev ≤ levelOf m := by
  have hkeeps := Stage.keeps_run cfg booted es
  generalize (scanSystem cfg).run (ScanSystem.start booted) es = r at hkeeps
  obtain ⟨swept, hswept, hselects, hlevel⟩ := hkeeps.order
  obtain ⟨rest, hperm, -⟩ := hselects.rest
  have hlevels : ((sweepOf r.2).levels.map Prod.fst).Nodup :=
    sweepArfcns_nodup.sublist hkeeps.front.sublist
  have hnodup : (swept.map Prod.fst ++ rest.map Prod.fst).Nodup := by
    rw [← List.map_append]
    exact (hperm.map Prod.fst).nodup_iff.2 hlevels
  exact ⟨hswept ▸ hnodup.of_append_left, swept, hswept, hselects, hlevel⟩

end ImsiCatcher

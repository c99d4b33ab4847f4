import ImsiCatcher.Isolation
import ImsiCatcher.Layer23
import ImsiCatcher.PhoneJobs
import ImsiCatcher.Reception
import ImsiCatcher.SweepProgress

/-!
# The scanner's errands

Outside the READ and the RACH state the scanner runs no timer: it has sent the phone on an
errand, to measure a band or to tune to an ARFCN, and waits for the answer. In the READ and the
RACH state it attends to a cell: its timer runs, and all that it asks for is aside. Each event
is described here by what it makes of the errand or of the stay in the cell.
-/

namespace ImsiCatcher

/-- What a request of the scanner puts into the way to the phone. -/
def CatcherOut.messages : CatcherOut → List Octets
  | resetReq => [l1ctlTxResetReq l1ctlResTFull]
  | pmReqRange lower upper => [l1ctlTxPmReqRange lower upper]
  | fbsbReq arfcn => [l1ctlTxFbsbReq arfcn l1ctlFbsbFFb01sb 100 0 ccchModeNone]
  | ccchModeReq combined =>
    [l1ctlTxCcchModeReq (if combined then ccchModeCombined else ccchModeNonCombined)]
  | chanRqd cr combined => rslmsRxChanRqd (ImsiCatcher.chanRqd cr combined)
  | _ => []

def messagesOf (out : List CatcherOut) : List Octets := out.flatMap CatcherOut.messages

theorem messagesOf_append (out out' : List CatcherOut) :
    messagesOf (out ++ out') = messagesOf out ++ messagesOf out' := List.flatMap_append

/-- What may be let out in a cell: lines, records and what is asked for aside. -/
def CatcherOut.InCell : CatcherOut → Prop
  | summary _ | logSysinfo _ _ | ccchModeReq _ | chanRqd _ _ => True
  | _ => False

theorem tuned_inCell {out : List CatcherOut} (h : ∀ o ∈ out, o.InCell) : tuned out = none := by
  rw [tuned, List.findSome?_eq_none_iff]
  intro o ho
  have hinCell := h o ho
  cases o with
  | fbsbReq a => exact hinCell.elim
  | _ => rfl

inductive Errand where
  | measure (band : ℕ × ℕ)
  | tune (arfcn : ℕ)

def Errand.message : Errand → Octets
  | measure band => l1ctlTxPmReqRange band.1 band.2
  | tune arfcn => l1ctlTxFbsbReq arfcn l1ctlFbsbFFb01sb 100 0 ccchModeNone

theorem CatcherOut.InCell.side {o : CatcherOut} (h : o.InCell) :
    ∀ m ∈ o.messages, SideRequest m := by
  cases o with
  | ccchModeReq combined => exact List.forall_mem_singleton.2 (.ccchMode _)
  | chanRqd cr combined =>
    have hpair : rslmsRxChanRqd (ImsiCatcher.chanRqd cr combined) =
        phRachReq cr (((if combined then 1 else 0 : UInt8) <<< 7 &&& 0x7f).toNat * 256 + 0)
          ((if combined then 1 else 0 : UInt8) <<< 7 >>> 7) (0 - 0) 0 := rfl
    change ∀ m ∈ rslmsRxChanRqd (ImsiCatcher.chanRqd cr combined), SideRequest m
    rw [hpair, phRachReq, List.forall_mem_cons, List.forall_mem_singleton]
    exact ⟨.param _ _, .rach _ _ _⟩
  | summary line => exact List.forall_mem_nil _
  | logSysinfo s meas => exact List.forall_mem_nil _
  | _ => exact h.elim

theorem side_messagesOf {out : List CatcherOut} (h : ∀ o ∈ out, o.InCell) :
    ∀ m ∈ messagesOf out, SideRequest m := by
  intro m hm
  obtain ⟨o, ho, hmem⟩ := List.mem_flatMap.1 hm
  exact (h o ho).side m hmem

/-- A record that is made of blocks that were heard on an ARFCN, in some order. -/
inductive Gsm48Sysinfo.FromCell (heard : List Radio) (arfcn : ℕ) : Gsm48Sysinfo → Prop
  | start (bsic : ℕ) : FromCell heard arfcn { arfcn := arfcn, bsic := bsic }
  | decode {s s' : Gsm48Sysinfo} {msg : Octets} (before : FromCell heard arfcn s)
      (block : .block arfcn msg ∈ heard) (decoded : s.bcchDecode msg = some s') :
      FromCell heard arfcn s'

theorem Gsm48Sysinfo.FromCell.mono {heard heard' : List Radio} {arfcn : ℕ} {s : Gsm48Sysinfo}
    (h : s.FromCell heard arfcn) (hsub : heard ⊆ heard') : s.FromCell heard' arfcn := by
  induction h with
  | start bsic => exact .start bsic
  | decode before block decoded ih => exact .decode ih (hsub block) decoded

namespace Catcher
variable {cfg : CatcherConfig} {env : Surroundings} {c c' : Catcher}

def On (cfg : CatcherConfig) (c : Catcher) : Errand → Prop
  | .measure band => c.state = .pm ∧ c.pmIndex < 3 ∧ band = bandRange cfg c.pmIndex
  | .tune arfcn => c.state = .sync ∧ c.arfcn = arfcn ∧ arfcn < 1024 ∧
      c.sysinfo = { arfcn := arfcn }

structure SentOn (cfg : CatcherConfig) (errand : Errand) (r : Catcher × List CatcherOut) :
    Prop where
  on : r.1.On cfg errand
  started : r.1.started = true
  asked : messagesOf r.2 = [l1ctlTxResetReq l1ctlResTFull, errand.message]

structure Attached (cfg : CatcherConfig) (c : Catcher) : Prop where
  state : c.state = .read ∨ c.state = .rach
  timer : c.timerPending = true
  started : c.started = true
  below : 0 ≤ cfg.rachMax → c.state = .rach → (c.rachCount : ℤ) < cfg.rachMax

structure InSameCell (c c' : Catcher) : Prop where
  arfcn : c'.arfcn = c.arfcn
  started : c'.started = c.started
  pm : c'.pm = c.pm

inductive Attends (cfg : CatcherConfig) (env : Surroundings) (c : Catcher) :
    Catcher × List CatcherOut → Prop
  | stay {c' : Catcher} {out : List CatcherOut} (same : InSameCell c c') (attached : c'.Attached cfg)
      (inCell : ∀ o ∈ out, o.InCell) : Attends cfg env c (c', out)
  | leave {c' : Catcher} {out : List CatcherOut} (same : InSameCell c c')
      (inCell : ∀ o ∈ out, o.InCell) :
      Attends cfg env c ((c'.startSync cfg env).1, out ++ (c'.startSync cfg env).2)

theorem startSync_started (cfg : CatcherConfig) (env : Surroundings) (c : Catcher) :
    (c.startSync cfg env).1.started = c.started := by
  unfold startSync
  dsimp only
  split
  · rw [startPm_first _ rfl]
  · rfl

theorem startSync_arfcn (cfg : CatcherConfig) (env : Surroundings) (c : Catcher) :
    (c.startSync cfg env).1.arfcn = (strongestUnsynced c.pm).2 := by
  unfold startSync
  generalize strongestUnsynced c.pm = best
  dsimp only
  split
  · rw [startPm_first _ rfl]
  · rfl

theorem Tunes.arfcn {a : ℕ} (h : Tunes c.pm a (c.startSync cfg env)) :
    (c.startSync cfg env).1.arfcn = a := by
  obtain ⟨line, hasked⟩ := h.asked
  rw [startSync_arfcn]
  unfold startSync at hasked
  dsimp only at hasked
  split at hasked
  · rw [startPm_first _ rfl] at hasked
    simp at hasked
  · simp only [List.cons.injEq, CatcherOut.fbsbReq.injEq] at hasked
    exact hasked.2.2.1

theorem startSync_sentOn (hstarted : c.started = true) :
    ∃ errand, SentOn cfg errand (c.startSync cfg env) := by
  have hstill : (c.startSync cfg env).1.started = true :=
    (startSync_started cfg env c).trans hstarted
  rcases startSync_progress cfg env c with ⟨a, htunes⟩ | hrestarts
  · obtain ⟨line, hasked⟩ := htunes.asked
    have hsysinfo : (c.startSync cfg env).1.sysinfo = { arfcn := a } := by
      rw [(startSync_left cfg env c).sysinfo, hasked]
      rfl
    refine ⟨.tune a, ⟨htunes.state, htunes.arfcn, htunes.chosen.arfcn, hsysinfo⟩, hstill, ?_⟩
    rw [hasked]
    rfl
  · have hband : (0, 124) = bandRange cfg (c.startSync cfg env).1.pmIndex := by
      rw [hrestarts.index]
      rfl
    refine ⟨.measure (0, 124), ⟨hrestarts.state, ?_, hband⟩, hstill, ?_⟩
    · rw [hrestarts.index]
      decide
    · rw [hrestarts.asked]
      rfl

/-! ### In a cell -/

theorem Attends.prepend {r : Catcher × List CatcherOut} (h : Attends cfg env c r)
    {out : List CatcherOut} (hout : ∀ o ∈ out, o.InCell) : Attends cfg env c (r.1, out ++ r.2) := by
  cases h with
  | stay same attached inCell =>
    exact .stay same attached (List.forall_mem_append.2 ⟨hout, inCell⟩)
  | leave same inCell =>
    rw [← List.append_assoc]
    exact .leave same (List.forall_mem_append.2 ⟨hout, inCell⟩)

theorem Attends.silent (same : InSameCell c c') (attached : c'.Attached cfg) :
    Attends cfg env c (c', []) :=
  .stay same attached (List.forall_mem_nil _)

theorem startRach_attends (same : InSameCell c c') (hstarted : c.started = true)
    (hcount : 0 ≤ cfg.rachMax → (c'.rachCount : ℤ) ≤ cfg.rachMax) :
    Attends cfg env c (c'.startRach cfg env) := by
  unfold startRach
  split
  · exact .leave same (List.forall_mem_singleton.2 (by trivial))
  · rename_i hmore
    have hstill : c'.started = true := same.started.trans hstarted
    have hbelow : 0 ≤ cfg.rachMax → (c'.rachCount : ℤ) < cfg.rachMax :=
      fun hmax => lt_of_le_of_ne (hcount hmax) hmore
    exact .stay ⟨same.arfcn, same.started, same.pm⟩
      ⟨Or.inr rfl, rfl, hstill, fun hmax _ => hbelow hmax⟩
      (List.forall_mem_singleton.2 (by trivial))

theorem taResult_attends (same : InSameCell c c') (ta : UInt8) :
    Attends cfg env c (c'.taResult cfg env ta) := by
  have hstopped : InSameCell c c'.stopTimer := ⟨same.arfcn, same.started, same.pm⟩
  have hleave : Attends cfg env c ((c'.stopTimer.startSync cfg env).1,
      [.logSysinfo c'.sysinfo c'.meas] ++ (c'.stopTimer.startSync cfg env).2) :=
    .leave hstopped (List.forall_mem_singleton.2 (by trivial))
  refine hleave.prepend ?_
  split
  · exact List.forall_mem_singleton.2 trivial
  · exact List.forall_mem_nil _

theorem pchAgch_attends (same : InSameCell c c') (attached : c'.Attached cfg) (msg : Octets) :
    Attends cfg env c (c'.pchAgch cfg env msg) := by
  have hta : ∀ ta, Attends cfg env c (c'.taResult cfg env ta) := taResult_attends same
  have hstay : Attends cfg env c (c', []) := .silent same attached
  unfold pchAgch immAss immAssExt immAssRej
  repeat' split
  all_goals first | exact hta _ | exact hstay

theorem newSysinfo_attends (same : InSameCell c c') (attached : c'.Attached cfg) :
    Attends cfg env c (c'.newSysinfo cfg env) := by
  unfold newSysinfo
  split
  · have hstopped : InSameCell c { c'.stopTimer with rachCount := 0 } :=
      ⟨same.arfcn, same.started, same.pm⟩
    exact startRach_attends hstopped (same.started ▸ attached.started) id
  · exact .silent ⟨same.arfcn, same.started, same.pm⟩
      ⟨attached.state, rfl, attached.started, attached.below⟩

theorem bcch_attends (same : InSameCell c c') (attached : c'.Attached cfg) (msg : Octets) :
    Attends cfg env c (c'.bcch cfg env msg) := by
  unfold bcch
  cases c'.sysinfo.bcchDecode msg with
  | none => exact .silent same attached
  | some s =>
    have hnew : Attends cfg env c (newSysinfo cfg env { c' with sysinfo := s }) :=
      newSysinfo_attends ⟨same.arfcn, same.started, same.pm⟩
        ⟨attached.state, attached.timer, attached.started, attached.below⟩
    refine hnew.prepend ?_
    split
    · exact List.forall_mem_singleton.2 trivial
    · exact List.forall_mem_nil _

theorem unitDataInd_attends (same : InSameCell c c') (attached : c'.Attached cfg) (chan : Chan)
    (l3 : Octets) : Attends cfg env c (c'.unitDataInd cfg env chan l3) := by
  unfold unitDataInd
  split
  · exact .silent same attached
  · cases chan with
    | bcch => exact bcch_attends same attached l3
    | pchAgch => exact pchAgch_attends same attached l3
    | other => exact .silent same attached

theorem rxPhDataInd_attends (attached : c.Attached cfg) (chan : Chan) (rxLevel : UInt8)
    (fireCrc : ℕ) (l3 : Octets) :
    Attends cfg env c (c.rxPhDataInd cfg env chan rxLevel fireCrc l3) := by
  have hsame : InSameCell c (c.counted rxLevel) := ⟨rfl, rfl, rfl⟩
  have hattached : (c.counted rxLevel).Attached cfg :=
    ⟨attached.state, attached.timer, attached.started, attached.below⟩
  unfold rxPhDataInd
  dsimp only
  split
  · exact .silent hsame hattached
  · exact unitDataInd_attends hsame hattached chan l3

theorem timer_attends (attached : c.Attached cfg) : Attends cfg env c (step cfg c (.timer, env)) := by
  have hstopped : InSameCell c c.stopTimer := ⟨rfl, rfl, rfl⟩
  have hstep : step cfg c (.timer, env) = c.stopTimer.timeoutCb cfg env :=
    if_pos attached.timer
  rw [hstep]
  unfold timeoutCb
  rcases attached.state with hread | hrach
  · have hstate : c.stopTimer.state = .read := hread
    rw [hstate]
    exact .leave hstopped (List.forall_mem_nil _)
  · have hstate : c.stopTimer.state = .rach := hrach
    rw [hstate]
    refine startRach_attends ⟨rfl, rfl, rfl⟩ attached.started fun hmax => ?_
    have hbelow := attached.below hmax hrach
    change ((c.rachCount + 1 : ℕ) : ℤ) ≤ cfg.rachMax
    omega

/-! ### Signals -/

/-- The event of a signal that fits, on its own. -/
theorem rcvSignal_step {s : L1Signal} (hs : s.Fits) {e : CatcherEvent} (he : s.event = some e) :
    c.rcvSignal cfg (s, env) = step cfg c (e, env) := by
  rw [rcvSignal_eq cfg c s env hs, he]
  change ((step cfg c (e, env)).1, (step cfg c (e, env)).2 ++ []) = _
  rw [List.append_nil]

theorem aside_fits {heard : List Radio} {cell : ℕ} {s : L1Signal} (hs : s.Aside heard cell) :
    s.Fits := by
  cases s with
  | phData dl data => exact hs.1
  | _ => trivial

theorem chanConf_attends (attached : c.Attached cfg) (data : Octets) :
    Attends cfg env c (c.chanConf data, []) := by
  unfold chanConf
  dsimp only
  split
  · exact .silent ⟨rfl, rfl, rfl⟩
      ⟨attached.state, attached.timer, attached.started, attached.below⟩
  · exact .silent ⟨rfl, rfl, rfl⟩ attached

/-- What is aside is attended to. -/
theorem aside_attends (attached : c.Attached cfg) {heard : List Radio} {cell : ℕ} {s : L1Signal}
    (hs : s.Aside heard cell) : Attends cfg env c (c.rcvSignal cfg (s, env)) := by
  cases s with
  | reset =>
    have hstep : c.rcvSignal cfg (.reset, env) = (c, []) := if_pos attached.started
    rw [hstep]
    exact .silent ⟨rfl, rfl, rfl⟩ attached
  | ccchModeConf ccchMode => exact .silent ⟨rfl, rfl, rfl⟩ attached
  | phData dl data =>
    rw [rcvSignal_step (aside_fits hs) rfl]
    exact rxPhDataInd_attends attached _ _ _ _
  | phRach fn msg =>
    rw [rcvSignal_step (aside_fits hs) rfl]
    exact chanConf_attends attached _
  | _ => exact hs.elim

/-- In a cell, a record goes on being made of what is heard there, and what is printed is. -/
structure Records (heard : List Radio) (arfcn : ℕ) (r : Catcher × List CatcherOut) : Prop where
  held : tuned r.2 = none → r.1.sysinfo.FromCell heard arfcn
  printed : ∀ s ∈ reports r.2, s.FromCell heard arfcn

theorem step_records {heard : List Radio} {e : CatcherEvent}
    (htaken : (c.takenIn (e, env)).FromCell heard c.arfcn) :
    Records heard c.arfcn (step cfg c (e, env)) := by
  have hreported := step_reported cfg c (e, env)
  refine ⟨?_, ?_⟩
  · intro htuned
    rw [hreported.sysinfo, htuned]
    exact htaken
  · intro s hs
    rw [(hreported.of_mem hs).1]
    exact htaken

theorem dataInd_records {heard : List Radio} (hrecord : c.sysinfo.FromCell heard c.arfcn)
    {chan : Chan} {rxLevel : UInt8} {fireCrc : ℕ} {l3 : Octets}
    (hl3 : .block c.arfcn l3 ∈ heard) :
    Records heard c.arfcn (step cfg c (.dataInd chan rxLevel fireCrc l3, env)) := by
  have hheard : ∀ msg ∈ c.heard (.dataInd chan rxLevel fireCrc l3, env), msg = l3 := by
    intro msg hmsg
    unfold Catcher.heard at hmsg
    cases chan with
    | bcch =>
      dsimp only at hmsg
      split at hmsg
      · exact (Option.some_inj.1 hmsg).symm
      · cases hmsg
    | _ => cases hmsg
  refine step_records ?_
  unfold takenIn
  dsimp only
  cases hmsg : c.heard (.dataInd chan rxLevel fireCrc l3, env) with
  | none => exact hrecord
  | some msg =>
    obtain rfl : msg = l3 := hheard msg hmsg
    dsimp only
    cases hdecode : c.sysinfo.bcchDecode msg with
    | none => exact hrecord
    | some s => exact .decode hrecord hl3 hdecode

theorem aside_records {heard : List Radio} (hrecord : c.sysinfo.FromCell heard c.arfcn)
    {s : L1Signal} (hs : s.Aside heard c.arfcn) :
    Records heard c.arfcn (c.rcvSignal cfg (s, env)) := by
  cases s with
  | reset => exact step_records (e := .reset) hrecord
  | ccchModeConf ccchMode => exact ⟨fun _ => hrecord, List.forall_mem_nil _⟩
  | phData dl data =>
    rw [rcvSignal_step (aside_fits hs) rfl]
    exact dataInd_records hrecord hs.2.1
  | phRach fn msg =>
    rw [rcvSignal_step (aside_fits hs) rfl]
    exact step_records hrecord
  | _ => exact hs.elim

/-! ### On an errand -/

/-- Neither the errand nor the table is touched. -/
structure Waits (c c' : Catcher) : Prop where
  state : c'.state = c.state
  arfcn : c'.arfcn = c.arfcn
  started : c'.started = c.started
  pmIndex : c'.pmIndex = c.pmIndex
  pm : c'.pm = c.pm
  sysinfo : c'.sysinfo = c.sysinfo

theorem On.waits {errand : Errand} (h : c.On cfg errand) (hw : Waits c c') :
    c'.On cfg errand := by
  cases errand <;> simpa only [On, hw.state, hw.pmIndex, hw.arfcn, hw.sysinfo] using h

/-- Where no cell is attended to, frames and expiries come to nothing. -/
theorem aside_waits (hstate : ¬(c.state = .read ∨ c.state = .rach)) {heard : List Radio}
    {cell : ℕ} {s : L1Signal} (hs : s.Aside heard cell)
    (hreset : s = .reset → c.started = true) :
    Waits c (c.rcvSignal cfg (s, env)).1 ∧ (c.rcvSignal cfg (s, env)).2 = [] := by
  have hsame : Waits c c := ⟨rfl, rfl, rfl, rfl, rfl, rfl⟩
  cases s with
  | reset =>
    have hstep : c.rcvSignal cfg (.reset, env) = (c, []) := if_pos (hreset rfl)
    rw [hstep]
    exact ⟨hsame, rfl⟩
  | ccchModeConf ccchMode => exact ⟨hsame, rfl⟩
  | phData dl data =>
    have hdeaf : (c.counted dl.rxLevel).state ≠ .read ∧ (c.counted dl.rxLevel).state ≠ .rach :=
      not_or.1 hstate
    have hstep : c.rcvSignal cfg (.phData dl data, env) = (c.counted dl.rxLevel, []) := by
      rw [rcvSignal_step (aside_fits hs) rfl]
      change c.rxPhDataInd cfg env _ _ _ _ = _
      unfold rxPhDataInd
      split
      · rfl
      · exact if_pos hdeaf
    rw [hstep]
    exact ⟨⟨rfl, rfl, rfl, rfl, rfl, rfl⟩, rfl⟩
  | phRach fn msg =>
    have hdeaf : c.state ≠ .rach := (not_or.1 hstate).2
    have hstep : c.rcvSignal cfg (.phRach fn msg, env) = (c, []) := by
      rw [rcvSignal_step (aside_fits hs) rfl]
      change (c.chanConf _, ([] : List CatcherOut)) = _
      unfold chanConf
      dsimp only
      rw [if_neg fun h => hdeaf h.1]
    rw [hstep]
    exact ⟨hsame, rfl⟩
  | _ => exact hs.elim

theorem timer_waits (hstate : ¬(c.state = .read ∨ c.state = .rach)) :
    Waits c (step cfg c (.timer, env)).1 ∧ (step cfg c (.timer, env)).2 = [] := by
  obtain ⟨b, hb⟩ := expiry_deaf cfg env hstate
  rw [hb]
  exact ⟨⟨rfl, rfl, rfl, rfl, rfl, rfl⟩, rfl⟩

def takeLevels (c : Catcher) (levels : List (ℕ × UInt8)) : Catcher :=
  levels.foldl (fun c m => c.pmRes m.1 m.2) c

theorem run_takeLevels (levels : List (ℕ × UInt8)) (env : Surroundings) (c : Catcher) :
    (⟨Catcher.rcvSignal cfg⟩ : Machine Catcher (L1Signal × Surroundings) CatcherOut).run c
      ((levels.map fun m => L1Signal.pmRes m.1 m.2).map fun s => (s, env)) =
        (c.takeLevels levels, []) := by
  induction levels generalizing c with
  | nil => rfl
  | cons m levels ih =>
    rw [List.map_cons, List.map_cons, Machine.run_cons]
    exact congrArg (fun r : Catcher × List CatcherOut => (r.1, [] ++ r.2)) (ih (c.pmRes m.1 m.2))

/-- Levels set the table, and nothing that an errand goes by. -/
theorem takeLevels_keeps (levels : List (ℕ × UInt8)) (c : Catcher) :
    (c.takeLevels levels).state = c.state ∧ (c.takeLevels levels).arfcn = c.arfcn ∧
      (c.takeLevels levels).started = c.started ∧ (c.takeLevels levels).pmIndex = c.pmIndex ∧
      (c.takeLevels levels).sysinfo = c.sysinfo := by
  induction levels generalizing c with
  | nil => exact ⟨rfl, rfl, rfl, rfl, rfl⟩
  | cons m levels ih => exact ih (c.pmRes m.1 m.2)

theorem On.takeLevels {errand : Errand} (h : c.On cfg errand) (levels : List (ℕ × UInt8)) :
    (c.takeLevels levels).On cfg errand := by
  obtain ⟨hstate, harfcn, -, hindex, hsysinfo⟩ := takeLevels_keeps levels c
  cases errand <;> simpa only [On, hstate, harfcn, hindex, hsysinfo] using h

theorem On.deaf {errand : Errand} (h : c.On cfg errand) :
    ¬(c.state = .read ∨ c.state = .rach) := by
  have hstate : c.state = .pm ∨ c.state = .sync := by
    cases errand with
    | measure band => exact Or.inl h.1
    | tune arfcn => exact Or.inr h.1
  rcases hstate with hstate | hstate <;> simp [hstate]

/-! ### Messages -/

theorem recv_one {msg : Octets} {s : L1Signal} (hmsg : l1ctlRecv msg = [s]) :
    c.layer23Step cfg (.recv msg, env) = c.rcvSignal cfg (s, env) := by
  rw [layer23Step, hmsg]
  change ((c.rcvSignal cfg (s, env)).1, (c.rcvSignal cfg (s, env)).2 ++ []) = _
  rw [List.append_nil]

theorem recv_levels {levels : List (ℕ × UInt8)} (h : ∀ m ∈ levels, m.1 < 65536) :
    c.layer23Step cfg (.recv (pmConf false levels), env) = (c.takeLevels levels, []) := by
  rw [layer23Step, l1ctlRecv_pmConf false h, if_neg Bool.false_ne_true, List.append_nil]
  exact run_takeLevels levels env c

theorem recv_done {levels : List (ℕ × UInt8)} (h : ∀ m ∈ levels, m.1 < 65536) :
    c.layer23Step cfg (.recv (pmConf true levels), env) =
      step cfg (c.takeLevels levels) (.pmDone, env) := by
  rw [layer23Step, l1ctlRecv_pmConf true h, if_pos rfl, List.map_append, Machine.run_append,
    run_takeLevels levels env c]
  change ((step cfg (c.takeLevels levels) (.pmDone, env)).1,
    [] ++ ((step cfg (c.takeLevels levels) (.pmDone, env)).2 ++ [])) = _
  rw [List.append_nil, List.nil_append]

/-! ### The answers -/

/-- The entries of `band_range` in front of the one that ends it. -/
def scanBands : List (ℕ × ℕ) := [(0, 124), (512, 890), (955, 1023)]

theorem bandRange_mem {i : ℕ} (hi : i < 3) : bandRange cfg i ∈ scanBands := by
  have hcases : i = 0 ∨ i = 1 ∨ i = 2 := by omega
  rcases hcases with rfl | rfl | rfl <;> simp [bandRange, scanBands]

theorem scanBands_bounds : ∀ band ∈ scanBands, band.1 < band.2 ∧ band.2 < 1024 := by
  decide

theorem startPm_sentOn {sync : Catcher → Catcher × List CatcherOut} (hindex : c.pmIndex < 3)
    (hstarted : c.started = true) :
    SentOn cfg (.measure (bandRange cfg c.pmIndex)) (startPm cfg sync c) := by
  have hband : ¬((bandRange cfg c.pmIndex).1 = 0 ∧ (bandRange cfg c.pmIndex).2 = 0) := by
    have hmem : bandRange cfg c.pmIndex ∈ scanBands := bandRange_mem hindex
    have hbounds := scanBands_bounds _ hmem
    omega
  unfold startPm
  dsimp only
  rw [if_neg hband]
  exact ⟨⟨rfl, hindex, rfl⟩, hstarted, rfl⟩

/-- The end of a band: the next one is measured, or behind the last one the table is used. -/
theorem pmDone_sentOn (hstarted : c.started = true) (hindex : c.pmIndex < 3) :
    ∃ errand, SentOn cfg errand (step cfg c (.pmDone, env)) := by
  change ∃ errand, SentOn cfg errand
    (startPm cfg (startSync cfg env) { c with pmIndex := c.pmIndex + 1 })
  by_cases hlast : c.pmIndex + 1 < 3
  · exact ⟨_, startPm_sentOn hlast hstarted⟩
  · have hthree : c.pmIndex + 1 = 3 := by omega
    have hsync : ∃ errand, SentOn cfg errand
        (startSync cfg env { c with pmIndex := c.pmIndex + 1, state := .pm }) :=
      startSync_sentOn hstarted
    obtain ⟨errand, hsent⟩ := hsync
    have hend : (bandRange cfg 3).1 = 0 ∧ (bandRange cfg 3).2 = 0 := ⟨rfl, rfl⟩
    refine ⟨errand, ?_⟩
    unfold startPm
    dsimp only
    rw [hthree, if_pos hend]
    rw [hthree] at hsent
    exact ⟨hsent.on, hsent.started, hsent.asked⟩

theorem fbsbResp_attached {a : ℕ} (h : c.On cfg (.tune a)) (hstarted : c.started = true)
    (bsic : UInt8) : (step cfg c (.fbsbResp bsic, env)).1.Attached cfg ∧
      (step cfg c (.fbsbResp bsic, env)).1.arfcn = a ∧
      (step cfg c (.fbsbResp bsic, env)).1.sysinfo = { arfcn := a, bsic := bsic.toNat } := by
  refine ⟨⟨Or.inl rfl, rfl, hstarted, nofun⟩, h.2.1, ?_⟩
  change ({ c.sysinfo with bsic := bsic.toNat } : Gsm48Sysinfo) = _
  rw [h.2.2.2]

theorem first_sentOn (hstarted : c.started = false) :
    SentOn cfg (.measure (0, 124)) (step cfg c (.reset, env)) := by
  have hstep : step cfg c (.reset, env) = startPm cfg (startSync cfg env)
      { c with started := true, pm := fun _ => {}, pmIndex := 0, syncCount := 0 } :=
    if_neg (by rw [hstarted]; exact Bool.false_ne_true)
  have hindex : ({ c with started := true, pm := fun _ => {}, pmIndex := 0, syncCount := 0 } :
      Catcher).pmIndex < 3 := Nat.succ_pos 2
  rw [hstep]
  exact startPm_sentOn hindex rfl

end Catcher
end ImsiCatcher

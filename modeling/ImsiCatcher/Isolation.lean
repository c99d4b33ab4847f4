import ImsiCatcher.CatcherReports
import ImsiCatcher.Handlers
import ImsiCatcher.Unwinding

/-!
# Cells do not contaminate each other

Behind a call of `start_sync` that tunes, two scanners with any past are alike: what still
differs is not read before it is written. Frames of the same cell keep them alike until
`start_sync` is called again, and a block is printed only right before such a call.
-/

namespace ImsiCatcher

def printedBlock : CatcherOut → Option (Gsm48Sysinfo × RxMeasStat)
  | .logSysinfo s meas => some (s, meas)
  | _ => none

def blocks (out : List CatcherOut) : List (Gsm48Sysinfo × RxMeasStat) :=
  out.filterMap printedBlock

def requestsReset (out : List CatcherOut) : Bool :=
  out.any fun | .resetReq => true | _ => false

def logsPower (out : List CatcherOut) : Bool :=
  out.any fun | .logPm => true | _ => false

/-- The step calls `start_sync`. A measurement requests a reset by itself, and goes on to
`start_sync` only behind the table of levels. -/
def callsSync (e : CatcherEvent × Surroundings) (out : List CatcherOut) : Bool :=
  match e.1 with
  | .pmDone => logsPower out
  | .reset => logsPower out
  | _ => requestsReset out

/-- The same signal, frame, expiry or draw, and no signal of a power measurement or reset. -/
def SameEvent (e e' : CatcherEvent × Surroundings) : Prop :=
  e.1 = e'.1 ∧ e.2.random = e'.2.random ∧
    match e.1 with
    | .pmRes _ _ => False
    | .pmDone => False
    | .reset => False
    | _ => True

theorem blocks_append (out out' : List CatcherOut) :
    blocks (out ++ out') = blocks out ++ blocks out' := List.filterMap_append

theorem blocks_fst (out : List CatcherOut) : (blocks out).map Prod.fst = reports out := by
  unfold blocks reports
  rw [List.map_filterMap]
  congr 1
  funext o
  cases o <;> rfl

theorem requestsReset_append (out out' : List CatcherOut) :
    requestsReset (out ++ out') = (requestsReset out || requestsReset out') := List.any_append

namespace Catcher

theorem startPm_blocks {cfg : CatcherConfig} {sync : Catcher → Catcher × List CatcherOut}
    {c : Catcher} (hsync : ∀ c, blocks (sync c).2 = []) : blocks (startPm cfg sync c).2 = [] := by
  unfold startPm
  simp only
  split
  · rw [blocks_append, hsync]
    rfl
  · rfl

theorem startSync_blocks (cfg : CatcherConfig) (env : Surroundings) (c : Catcher) :
    blocks (c.startSync cfg env).2 = [] := by
  unfold startSync
  simp only
  split
  · exact startPm_blocks fun _ => rfl
  · rfl

theorem startSync_requestsReset (cfg : CatcherConfig) (env : Surroundings) (c : Catcher) :
    requestsReset (c.startSync cfg env).2 = true := by
  unfold startSync
  simp only
  split
  · have hband : ¬ ((bandRange cfg 0).1 = 0 ∧ (bandRange cfg 0).2 = 0) :=
      fun h => absurd h.2 (by decide : (124 : ℕ) ≠ 0)
    unfold startPm
    simp only
    rw [if_neg hband]
    rfl
  · rfl

structure Alike (c c' : Catcher) : Prop where
  state : c.state = c'.state
  sysinfo : c.sysinfo = c'.sysinfo
  reading : c.state = .read ∨ c.state = .rach →
    c.meas = c'.meas ∧ c.timerPending = c'.timerPending
  asking : c.state = .rach → c.rachCount = c'.rachCount ∧ c.rachRef.cr = c'.rachRef.cr ∧
    c.rachRef.valid = c'.rachRef.valid
  confirmed : c.state = .rach → c.rachRef.valid = true →
    c.rachRef.t1 = c'.rachRef.t1 ∧ c.rachRef.t2 = c'.rachRef.t2 ∧ c.rachRef.t3 = c'.rachRef.t3

/-- Two results show the same blocks, and either both left the cell or they are alike. -/
structure SameResult (r r' : Catcher × List CatcherOut) : Prop where
  shown : blocks r.2 = blocks r'.2
  left : requestsReset r.2 = requestsReset r'.2
  next : requestsReset r.2 = false → Alike r.1 r'.1

variable {cfg : CatcherConfig} {env env' : Surroundings} {c c' : Catcher}

theorem startSync_same (c c' : Catcher) :
    SameResult (c.startSync cfg env) (c'.startSync cfg env') := by
  refine ⟨?_, ?_, ?_⟩
  · rw [startSync_blocks, startSync_blocks]
  · rw [startSync_requestsReset, startSync_requestsReset]
  · intro h
    rw [startSync_requestsReset] at h
    exact absurd h (by decide)

theorem SameResult.prepend {r r' : Catcher × List CatcherOut} (h : SameResult r r')
    (out : List CatcherOut) : SameResult (r.1, out ++ r.2) (r'.1, out ++ r'.2) := by
  refine ⟨?_, ?_, ?_⟩
  · rw [blocks_append, blocks_append, h.shown]
  · rw [requestsReset_append, requestsReset_append, h.left]
  · intro hnone
    rw [requestsReset_append, Bool.or_eq_false_iff] at hnone
    exact h.next hnone.2

theorem SameResult.stay (h : Alike c c') : SameResult (c, []) (c', []) := ⟨rfl, rfl, fun _ => h⟩

theorem startRach_same (hrandom : env.random = env'.random) (hsysinfo : c.sysinfo = c'.sysinfo)
    (hmeas : c.meas = c'.meas) (hcount : c.rachCount = c'.rachCount) :
    SameResult (startRach cfg env c) (startRach cfg env' c') := by
  unfold startRach
  rw [← hcount]
  by_cases hmax : (c.rachCount : ℤ) = cfg.rachMax
  · rw [if_pos hmax, if_pos hmax, ← hsysinfo, ← hmeas]
    exact (startSync_same c c').prepend [.logSysinfo c.sysinfo c.meas]
  · rw [if_neg hmax, if_neg hmax, ← hsysinfo, ← hrandom]
    refine ⟨rfl, rfl, fun _ => ?_⟩
    constructor
    · rfl
    · rfl
    · exact fun _ => ⟨hmeas, rfl⟩
    · exact fun _ => ⟨rfl, rfl, rfl⟩
    · intro _ hvalid
      exact absurd hvalid Bool.false_ne_true

theorem SameResult.ite {p : Prop} [Decidable p] {r r' s s' : Catcher × List CatcherOut}
    (hpos : p → SameResult r r') (hneg : ¬p → SameResult s s') :
    SameResult (if p then r else s) (if p then r' else s') := by
  by_cases hp : p
  · rw [if_pos hp, if_pos hp]
    exact hpos hp
  · rw [if_neg hp, if_neg hp]
    exact hneg hp

/-- A scanner that neither reads nor asks goes by its state and its record alone. -/
theorem Alike.of_deaf (hstate : c.state = c'.state) (hsysinfo : c.sysinfo = c'.sysinfo)
    (hdeaf : ¬(c.state = .read ∨ c.state = .rach)) : Alike c c' := by
  refine ⟨hstate, hsysinfo, fun h => absurd h hdeaf, ?_, ?_⟩
  · exact fun h => absurd (Or.inr h) hdeaf
  · exact fun h => absurd (Or.inr h) hdeaf

theorem Alike.startTimer (h : Alike c c') : Alike c.startTimer c'.startTimer :=
  ⟨h.state, h.sysinfo, fun hr => ⟨(h.reading hr).1, rfl⟩, h.asking, h.confirmed⟩

theorem Alike.sysinfo_update (h : Alike c c') (s : Gsm48Sysinfo) :
    Alike { c with sysinfo := s } { c' with sysinfo := s } :=
  ⟨h.state, rfl, h.reading, h.asking, h.confirmed⟩

theorem newSysinfo_same (hrandom : env.random = env'.random) (h : Alike c c')
    (hmeas : c.meas = c'.meas) :
    SameResult (newSysinfo cfg env c) (newSysinfo cfg env' c') := by
  unfold newSysinfo
  rw [← h.sysinfo]
  refine .ite ?_ ?_
  · intro _
    exact startRach_same hrandom h.sysinfo hmeas rfl
  · intro _
    exact .stay h.startTimer

theorem bcch_same (hrandom : env.random = env'.random) (h : Alike c c')
    (hmeas : c.meas = c'.meas) (msg : Octets) :
    SameResult (c.bcch cfg env msg) (c'.bcch cfg env' msg) := by
  unfold bcch
  rw [← h.sysinfo]
  cases c.sysinfo.bcchDecode msg with
  | none => exact .stay h
  | some s =>
    exact (newSysinfo_same hrandom (h.sysinfo_update s) hmeas).prepend _

theorem taResult_same (hsysinfo : c.sysinfo = c'.sysinfo) (hmeas : c.meas = c'.meas)
    (ta : UInt8) : SameResult (c.taResult cfg env ta) (c'.taResult cfg env' ta) := by
  unfold taResult
  have hsync : SameResult (c.stopTimer.startSync cfg env) (c'.stopTimer.startSync cfg env') :=
    startSync_same _ _
  have hlog : CatcherOut.logSysinfo c.stopTimer.sysinfo c.stopTimer.meas =
      .logSysinfo c'.stopTimer.sysinfo c'.stopTimer.meas := by
    change CatcherOut.logSysinfo c.sysinfo c.meas = .logSysinfo c'.sysinfo c'.meas
    rw [hsysinfo, hmeas]
  simp only
  rw [← hlog]
  exact (hsync.prepend [_]).prepend _

theorem matchRa_same (h : Alike c c') (hrach : c.state = .rach) (msg : Octets) (i : ℕ) :
    c.matchRa msg i = c'.matchRa msg i := by
  obtain ⟨_, hcr, hvalid⟩ := h.asking hrach
  unfold matchRa
  rw [← hcr, ← hvalid]
  cases hv : c.rachRef.valid with
  | false => simp
  | true =>
    obtain ⟨h1, h2, h3⟩ := h.confirmed hrach hv
    rw [← h1, ← h2, ← h3]

theorem pchAgch_same (h : Alike c c') (hmeas : c.meas = c'.meas) (msg : Octets) :
    SameResult (c.pchAgch cfg env msg) (c'.pchAgch cfg env' msg) := by
  have hstay : SameResult (c, []) (c', []) := .stay h
  have hta : ∀ ta, SameResult (c.taResult cfg env ta) (c'.taResult cfg env' ta) :=
    taResult_same h.sysinfo hmeas
  unfold pchAgch immAss immAssExt immAssRej
  rw [← h.state]
  by_cases hrach : c.state = .rach
  · simp only [← matchRa_same h hrach]
    split
    · exact .ite (fun _ => hstay) fun _ => .ite (fun _ => hta _) fun _ => hstay
    · exact .ite (fun _ => hstay) fun _ => .ite (fun _ => hta _) fun _ =>
        .ite (fun _ => hta _) fun _ => hstay
    · exact .ite (fun _ => hstay) fun _ => .ite (fun _ => hta _) fun _ => hstay
    · exact hstay
  · simp only [ne_eq, hrach, not_false_eq_true, if_true]
    split <;> exact hstay

theorem unitDataInd_same (hrandom : env.random = env'.random) (h : Alike c c') (chan : Chan)
    (l3 : Octets) :
    SameResult (c.unitDataInd cfg env chan l3) (c'.unitDataInd cfg env' chan l3) := by
  unfold unitDataInd
  rw [← h.state]
  refine .ite (fun _ => .stay h) fun hin => ?_
  have hread : c.state = .read ∨ c.state = .rach := by
    by_contra hdeaf
    exact hin (not_or.1 hdeaf)
  have hmeas := (h.reading hread).1
  cases chan with
  | pchAgch => exact pchAgch_same h hmeas l3
  | bcch => exact bcch_same hrandom h hmeas l3
  | other => exact .stay h

theorem rxPhDataInd_same (hrandom : env.random = env'.random) (h : Alike c c') (chan : Chan)
    (rxLevel : UInt8) (fireCrc : ℕ) (l3 : Octets) :
    SameResult (c.rxPhDataInd cfg env chan rxLevel fireCrc l3)
      (c'.rxPhDataInd cfg env' chan rxLevel fireCrc l3) := by
  unfold rxPhDataInd
  refine .ite (fun _ => .stay ?_) fun _ => unitDataInd_same hrandom ?_ chan l3
  all_goals
    refine ⟨h.state, h.sysinfo, ?_, h.asking, h.confirmed⟩
    intro hread
    obtain ⟨hmeas, htimer⟩ := h.reading hread
    exact ⟨by rw [hmeas], htimer⟩

theorem expiry_deaf (cfg : CatcherConfig) (env : Surroundings)
    (hdeaf : ¬(c.state = .read ∨ c.state = .rach)) :
    ∃ b, step cfg c (.timer, env) = ({ c with timerPending := b }, []) := by
  simp only [step]
  split
  · refine ⟨false, ?_⟩
    unfold timeoutCb
    cases hstate : c.stopTimer.state with
    | read => exact absurd (Or.inl hstate) hdeaf
    | rach => exact absurd (Or.inr hstate) hdeaf
    | pm => rfl
    | sync => rfl
  · exact ⟨c.timerPending, rfl⟩

theorem timeoutCb_same (hrandom : env.random = env'.random) (h : Alike c c')
    (hread : c.state = .read ∨ c.state = .rach) :
    SameResult (c.stopTimer.timeoutCb cfg env) (c'.stopTimer.timeoutCb cfg env') := by
  have hstate : c.stopTimer.state = c'.stopTimer.state := h.state
  unfold timeoutCb
  rw [← hstate]
  rcases hread with hread | hrach
  · have hstop : c.stopTimer.state = .read := hread
    rw [hstop]
    exact startSync_same _ _
  · have hstop : c.stopTimer.state = .rach := hrach
    rw [hstop]
    have hcount : c.rachCount + 1 = c'.rachCount + 1 :=
      congrArg (· + 1) (h.asking hrach).1
    exact startRach_same hrandom h.sysinfo (h.reading (Or.inr hrach)).1 hcount

theorem timer_same (hrandom : env.random = env'.random) (h : Alike c c') :
    SameResult (step cfg c (.timer, env)) (step cfg c' (.timer, env')) := by
  by_cases hread : c.state = .read ∨ c.state = .rach
  · simp only [step]
    rw [← (h.reading hread).2]
    exact .ite (fun _ => timeoutCb_same hrandom h hread) fun _ => .stay h
  · obtain ⟨b, hb⟩ := expiry_deaf cfg env hread
    obtain ⟨b', hb'⟩ := expiry_deaf cfg env' (h.state ▸ hread)
    rw [hb, hb']
    exact .stay (.of_deaf h.state h.sysinfo hread)

theorem chanConf_same (h : Alike c c') (data : Octets) :
    Alike (c.chanConf data) (c'.chanConf data) := by
  unfold chanConf
  simp only
  rw [← h.state]
  split
  · refine ⟨rfl, h.sysinfo, h.reading, ?_, fun _ _ => ⟨rfl, rfl, rfl⟩⟩
    intro hrach
    obtain ⟨hcount, hcr, _⟩ := h.asking hrach
    exact ⟨hcount, hcr, rfl⟩
  · exact h

theorem step_same (cfg : CatcherConfig) {c c' : Catcher} {e e' : CatcherEvent × Surroundings}
    (h : Alike c c') (he : SameEvent e e') : SameResult (step cfg c e) (step cfg c' e') := by
  obtain ⟨e, env⟩ := e
  obtain ⟨e', env'⟩ := e'
  obtain ⟨hevent, hrandom, hcell⟩ := he
  obtain rfl : e = e' := hevent
  cases e with
  | pmRes bandArfcn rxLev => exact absurd hcell id
  | pmDone => exact absurd hcell id
  | reset => exact absurd hcell id
  | fbsbResp bsic =>
    have hsysinfo : ({ c.sysinfo with bsic := bsic.toNat } : Gsm48Sysinfo) =
        { c'.sysinfo with bsic := bsic.toNat } := by rw [h.sysinfo]
    have hread : ScanState.read ≠ .rach := by decide
    refine .stay ⟨rfl, hsysinfo, fun _ => ⟨rfl, rfl⟩, ?_, ?_⟩
    · exact fun hrach => absurd hrach hread
    · exact fun hrach => absurd hrach hread
  | fbsbErr => exact startSync_same c c'
  | timer => exact timer_same hrandom h
  | dataInd chan rxLevel fireCrc l3 => exact rxPhDataInd_same hrandom h chan rxLevel fireCrc l3
  | chanConf data => exact .stay (chanConf_same h data)

structure ThroughSync (r : Catcher × List CatcherOut) : Prop where
  shown : requestsReset r.2 = false → blocks r.2 = []
  tuned : (tuned r.2).isSome → r.1.state = .sync

theorem ThroughSync.stay (c : Catcher) : ThroughSync (c, []) :=
  ⟨fun _ => rfl, fun h => absurd h Bool.false_ne_true⟩

theorem startPm_tuned {sync : Catcher → Catcher × List CatcherOut} {c : Catcher}
    (hsync : ∀ c, (tuned (sync c).2).isSome → (sync c).1.state = .sync)
    (h : (tuned (startPm cfg sync c).2).isSome) : (startPm cfg sync c).1.state = .sync := by
  unfold startPm at h ⊢
  simp only at h ⊢
  split at h
  · rw [if_pos ‹_›]
    exact hsync _ h
  · exact absurd h Bool.false_ne_true

theorem startSync_tuned (c : Catcher) (h : (tuned (c.startSync cfg env).2).isSome) :
    (c.startSync cfg env).1.state = .sync := by
  unfold startSync at h ⊢
  simp only at h ⊢
  split at h
  · rw [if_pos ‹_›]
    exact startPm_tuned (fun _ hnone => absurd hnone Bool.false_ne_true) h
  · rw [if_neg ‹_›]

theorem startPm_through (c : Catcher) : ThroughSync (startPm cfg (startSync cfg env) c) :=
  ⟨fun _ => startPm_blocks (startSync_blocks cfg env), startPm_tuned startSync_tuned⟩

/-- Whatever is printed before it, a call of `start_sync` follows. -/
theorem startSync_through (c : Catcher) (out : List CatcherOut) (htuned : tuned out = none) :
    ThroughSync ((c.startSync cfg env).1, out ++ (c.startSync cfg env).2) := by
  refine ⟨?_, ?_⟩
  · intro hnone
    rw [requestsReset_append, startSync_requestsReset, Bool.or_true] at hnone
    exact absurd hnone.symm Bool.false_ne_true
  · rw [tuned_append, htuned]
    exact startSync_tuned c

theorem tuned_of_said {ready : Prop} {meas : RxMeasStat} {out : List CatcherOut}
    (h : ∀ o ∈ out, o.Said ready meas) : tuned out = none := by
  rw [tuned, List.findSome?_eq_none_iff]
  intro o ho
  have hsaid := h o ho
  cases o with
  | fbsbReq a => exact hsaid.elim
  | _ => rfl

theorem blocks_of_quiet {meas : RxMeasStat} {out : List CatcherOut}
    (h : ∀ o ∈ out, o.Said False meas) : blocks out = [] := by
  rw [blocks, List.filterMap_eq_nil_iff]
  intro o ho
  have hsaid := h o ho
  cases o with
  | logSysinfo s m => exact hsaid.1.elim
  | _ => rfl

theorem Handled.through {c : Catcher} {ready : Prop} {r : Catcher × List CatcherOut}
    (h : Handled cfg env c ready r) : ThroughSync r := by
  cases h with
  | stay kept read rach said =>
    refine ⟨fun _ => blocks_of_quiet said, fun htuned => ?_⟩
    rw [tuned_of_said said] at htuned
    exact absurd htuned Bool.false_ne_true
  | sync kept said => exact startSync_through _ _ (tuned_of_said said)

theorem step_through (cfg : CatcherConfig) (c : Catcher) (e : CatcherEvent × Surroundings) :
    ThroughSync (step cfg c e) := by
  obtain ⟨e, env⟩ := e
  cases e with
  | pmRes bandArfcn rxLev => exact .stay _
  | pmDone => exact startPm_through _
  | fbsbResp bsic => exact .stay _
  | fbsbErr => exact startSync_through c [] rfl
  | reset =>
    simp only [step]
    split
    · exact .stay c
    · exact startPm_through _
  | timer =>
    simp only [step]
    split
    · exact timeoutCb_handled.through
    · exact .stay c
  | dataInd chan rxLevel fireCrc l3 =>
    exact (rxPhDataInd_handled chan rxLevel fireCrc l3).through
  | chanConf data => exact .stay _

/-- A step that does not call `start_sync` prints nothing. -/
theorem step_silent {c : Catcher} {e : CatcherEvent × Surroundings}
    (h : callsSync e (step cfg c e).2 = false) : blocks (step cfg c e).2 = [] := by
  have hthrough := (step_through cfg c e).shown
  obtain ⟨e, env⟩ := e
  cases e with
  | pmDone => exact startPm_blocks (startSync_blocks cfg env)
  | reset =>
    simp only [step]
    split
    · rfl
    · exact startPm_blocks (startSync_blocks cfg env)
  | _ => exact hthrough h

theorem step_blocks_le (cfg : CatcherConfig) (c : Catcher) (e : CatcherEvent × Surroundings) :
    (blocks (step cfg c e).2).length ≤ 1 := by
  have hfst := congrArg List.length (blocks_fst (step cfg c e).2)
  rw [List.length_map] at hfst
  rw [hfst]
  rcases (step_reported cfg c e).reports with hnil | ⟨hone, _⟩
  · rw [hnil]
    exact Nat.zero_le 1
  · rw [hone]
    exact Nat.le_refl 1

/-- Behind a call of `start_sync` that tunes, the past does not matter. -/
theorem tuned_alike {d d' : Catcher} {e e' : CatcherEvent × Surroundings} {a : ℕ}
    (h : tuned (step cfg d e).2 = some a) (h' : tuned (step cfg d' e').2 = some a) :
    Alike (step cfg d e).1 (step cfg d' e').1 := by
  have hstate := (step_through cfg d e).tuned (by rw [h]; rfl)
  have hstate' := (step_through cfg d' e').tuned (by rw [h']; rfl)
  refine .of_deaf (hstate.trans hstate'.symm) ?_ (by rw [hstate]; decide)
  rw [(step_reported cfg d e).sysinfo, (step_reported cfg d' e').sysinfo, h, h']
  rfl

end Catcher

theorem SameEvent.callsSync_eq {e e' : CatcherEvent × Surroundings} (h : SameEvent e e')
    (out : List CatcherOut) :
    callsSync e out = requestsReset out ∧ callsSync e' out = requestsReset out := by
  obtain ⟨e, env⟩ := e
  obtain ⟨e', env'⟩ := e'
  obtain ⟨hevent, _, hcell⟩ := h
  obtain rfl : e = e' := hevent
  cases e with
  | pmDone => exact absurd hcell id
  | reset => exact absurd hcell id
  | _ => exact ⟨rfl, rfl⟩

/-- What is printed of a cell depends on nothing from before it was tuned to, and is at most
one block until `start_sync` is called again. The call is the last thing that a step does, and
prints none itself. -/
theorem cells_isolated (cfg : CatcherConfig) :
    (∀ d d' e e' a es es',
      tuned ((catcher cfg).step d e).2 = some a → tuned ((catcher cfg).step d' e').2 = some a →
      (catcher cfg).AgreeUntil callsSync SameEvent
        ((catcher cfg).step d e).1 ((catcher cfg).step d' e').1 es es' →
      blocks ((catcher cfg).runUntil callsSync ((catcher cfg).step d e).1 es) =
        blocks ((catcher cfg).runUntil callsSync ((catcher cfg).step d' e').1 es')) ∧
    ∀ c es, (blocks ((catcher cfg).runUntil callsSync c es)).length ≤ 1 := by
  refine ⟨?_, ?_⟩
  · intro d d' e e' a es es' h h' hagree
    refine Machine.filterMap_runUntil_eq ?_ (Catcher.tuned_alike h h') hagree
    intro c c' f f' halike hsame
    obtain ⟨hshown, hleft, hnext⟩ := Catcher.step_same cfg halike hsame
    rw [(hsame.callsSync_eq _).1, (hsame.callsSync_eq _).2]
    exact ⟨hshown, hleft, hnext⟩
  · intro c es
    refine Machine.length_filterMap_runUntil_le ?_ c es
    exact fun c e => ⟨Catcher.step_blocks_le cfg c e, Catcher.step_silent⟩

/-- The same measurement, behind a channel request to another cell. -/
def askingCatcher : Catcher :=
  { measuredCatcher with
    state := .rach, timerPending := true, rachCount := 1, rachRef := { valid := true, cr := 0xe5 }
    sysinfo := { si1 := true, arfcn := 3 }, meas := { frames := 7, rxlev := 200 } }

theorem cells_isolated_asking :
    blocks ((catcher {}).runUntil callsSync ((catcher {}).step measuredCatcher (.fbsbErr, {})).1
      (readRun (plainSi 0x1c) ++ [timerFired])) =
    blocks ((catcher {}).runUntil callsSync ((catcher {}).step askingCatcher (.fbsbErr, {})).1
      (readRun (plainSi 0x1c) ++ [timerFired])) ∧
    blocks ((catcher {}).runUntil callsSync ((catcher {}).step measuredCatcher (.fbsbErr, {})).1
      (readRun (plainSi 0x1c) ++ [timerFired])) ≠ [] := by
  refine ⟨(cells_isolated {}).1 _ _ _ _ 20 _ _ ?_ ?_ (Machine.agreeUntil_self ?_), ?_⟩
  · decide +kernel
  · decide +kernel
  · simp [readRun, bcchFrames, timerFired, SameEvent]
  · decide +kernel

end ImsiCatcher

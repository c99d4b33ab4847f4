import ImsiCatcher.ScanSweep
import Mathlib.Algebra.GroupWithZero.Nat

/-!
# The scanner can always go on

Neither of the two programs waits for the other for ever: as long as the phone's receiver comes
to an end with each measurement and each burst, with or without a result, there are steps that
lead the scanner to its next errand. Outside a cell some of the work that is on its way is taken
off by a step; in a cell the timer runs out as often as channels may be requested.
-/

namespace ImsiCatcher

open Machine

def IsReset (o : ScanOut) : Prop := o = .scanner .resetReq

namespace Catcher
variable {cfg : CatcherConfig} {c : Catcher}

theorem startSync_resets (cfg : CatcherConfig) (env : Surroundings) (c : Catcher) :
    .resetReq ∈ (c.startSync cfg env).2 := by
  rcases startSync_progress cfg env c with ⟨a, htunes⟩ | hrestarts
  · obtain ⟨line, hasked⟩ := htunes.asked
    rw [hasked]
    simp
  · rw [hrestarts.asked]
    simp

theorem startPm_resets {sync : Catcher → Catcher × List CatcherOut}
    (hsync : ∀ c, .resetReq ∈ (sync c).2) (c : Catcher) :
    .resetReq ∈ (startPm cfg sync c).2 := by
  unfold startPm
  dsimp only
  split
  · exact List.mem_append_right _ (hsync _)
  · simp

/-- The timer of the RACH state sends the next request, or the scanner leaves the cell. -/
theorem rachTimeout_cases (env : Surroundings) (hstate : c.state = .rach)
    (htimer : c.timerPending = true) :
    .resetReq ∈ (step cfg c (.timer, env)).2 ∨
      ((step cfg c (.timer, env)).1.state = .rach ∧
        (step cfg c (.timer, env)).1.timerPending = true ∧
        (step cfg c (.timer, env)).1.rachCount = c.rachCount + 1 ∧
        (c.rachCount + 1 : ℤ) ≠ cfg.rachMax) := by
  have hstep : step cfg c (.timer, env) =
      startRach cfg env { c.stopTimer with rachCount := c.rachCount + 1 } := by
    have htimeout : step cfg c (.timer, env) = c.stopTimer.timeoutCb cfg env := if_pos htimer
    have hstopped : c.stopTimer.state = .rach := hstate
    rw [htimeout, timeoutCb, hstopped]
    rfl
  rw [hstep]
  unfold startRach
  split
  · exact Or.inl (List.mem_cons_of_mem _ (startSync_resets cfg env _))
  · rename_i hmore
    exact Or.inr ⟨rfl, rfl, rfl, fun h => hmore (by exact_mod_cast h)⟩

end Catcher

namespace ScanSystem
variable {cfg : CatcherConfig} {s : ScanSystem}

theorem timer_out (env : Surroundings)
    (h : .resetReq ∈ (Catcher.step cfg s.host (.timer, env)).2) :
    (scanSystem cfg).CanGive s IsReset :=
  .of_out (.timer env) (List.mem_map_of_mem h) rfl

theorem rach_goes_on {s : ScanSystem} (hattached : s.host.state = .rach ∧
      s.host.timerPending = true ∧ (s.host.rachCount : ℤ) < cfg.rachMax) :
    (scanSystem cfg).CanGive s IsReset := by
  refine canGive_of_work (I := fun s => s.host.state = .rach ∧ s.host.timerPending = true ∧
    (s.host.rachCount : ℤ) < cfg.rachMax) (fun s => (cfg.rachMax - s.host.rachCount).toNat) ?_
    hattached
  rintro s ⟨hstate, htimer, hcount⟩
  rcases Catcher.rachTimeout_cases {} hstate htimer with
    hreset | ⟨hstate', htimer', hcount', hmore⟩
  · exact Or.inl (timer_out {} hreset)
  · refine Or.inr ⟨.timer {}, ⟨hstate', htimer', ?_⟩, ?_⟩
    · change ((Catcher.step cfg s.host (.timer, {})).1.rachCount : ℤ) < _
      rw [hcount']
      omega
    · change (cfg.rachMax - (Catcher.step cfg s.host (.timer, {})).1.rachCount).toNat < _
      rw [hcount']
      omega

/-- In a cell the timer leads on. -/
theorem attached_goes_on (hmax : 0 ≤ cfg.rachMax) (h : s.host.Attached cfg) :
    (scanSystem cfg).CanGive s IsReset := by
  rcases h.state with hread | hrach
  · have hstep : Catcher.step cfg s.host (.timer, {}) = s.host.stopTimer.startSync cfg {} := by
      have htimeout : Catcher.step cfg s.host (.timer, {}) =
          s.host.stopTimer.timeoutCb cfg {} := if_pos h.timer
      have hstopped : s.host.stopTimer.state = .read := hread
      rw [htimeout, Catcher.timeoutCb, hstopped]
    refine timer_out {} ?_
    rw [hstep]
    exact Catcher.startSync_resets cfg {} _
  · exact rach_goes_on ⟨hrach, h.timer, h.below hmax hrach⟩

end ScanSystem

/-! ### The work that is left -/

namespace Phone

def searchWork (p : Phone) : ℕ :=
  if p.complFb then 3
  else match p.tdma with
    | [.fb _] => 4 + (fb0RetryCount - p.fbs.fbRetries)
    | [.sb] => 4
    | _ => 0

def work (p : Phone) : ℕ := 3 * p.remaining.length + p.searchWork

theorem searchWork_le (p : Phone) : p.searchWork ≤ 7 := by
  unfold searchWork fb0RetryCount
  split
  · decide
  · split <;> omega

theorem length_handler (p : Phone) (msg : Octets) : (p.l1aL23Handler msg).2.length ≤ 1 := by
  unfold l1aL23Handler l1ctlRxResetReq l1ctlRxCcchModeReq
  dsimp only
  repeat' split
  all_goals simp

variable {p : Phone} {job : Job}

theorem length_step (p : Phone) (e : PhoneEvent) : (p.step e).2.length ≤ 2 := by
  have hpmResp : ∀ arfcn rxlev, (p.l1sPmResp arfcn rxlev).2.length ≤ 2 := by
    intro arfcn rxlev
    have hflushed : ∀ (full : Prop) [Decidable full] (msg : Octets),
        (if full then [msg] else []).length ≤ 1 := by
      intro full _ msg
      split <;> simp
    unfold l1sPmResp
    dsimp only
    split
    · split
      · exact Nat.le_succ_of_le (hflushed _ _)
      · rw [List.length_append]
        exact Nat.add_le_add (hflushed _ _) (Nat.le_refl 1)
    · exact Nat.le_succ_of_le (hflushed _ _)
  have hcompl : p.l1aComplExecute.2.length ≤ 2 := by
    unfold l1aComplExecute l1aFbCompl
    dsimp only
    repeat' split
    all_goals simp
  cases e with
  | compl => exact hcompl
  | pmResp rxlev =>
    simp only [step]
    split
    · exact hpmResp _ _
    · exact Nat.zero_le 2
  | fbdetResp attempt found =>
    simp only [step]
    split <;> exact Nat.zero_le 2
  | sbdetResp attempt found =>
    simp only [step]
    split <;> exact Nat.zero_le 2
  | mframeSchedule task => exact Nat.zero_le 2
  | schedGsmtimeExecute => exact Nat.zero_le 2
  | nbResp task block =>
    simp only [step]
    split <;> simp [l1sNbResp]
  | rachResp fn =>
    simp only [step]
    split <;> exact Nat.zero_le 2

theorem Does.searchWork_rest (h : p.Does .rest) : p.searchWork = 0 := by
  rw [searchWork, h.1, h.2.1]
  rfl

theorem Does.searchWork_measure {next last : ℕ} {filled : List (ℕ × UInt8)}
    (h : p.Does (.measure next last filled)) : p.searchWork = 0 := by
  rw [searchWork, h.1, h.2.1]
  rfl

/-- A level that comes in takes more work off than it brings in messages. -/
theorem work_measure {next last : ℕ} {filled : List (ℕ × UInt8)}
    (h : p.Does (.measure next last filled)) (hjob : Job.Narrow (.measure next last filled)) :
    (p.step (.pmResp 0)).1.work + (p.step (.pmResp 0)).2.length < p.work := by
  have hproceeds := step_proceeds h (.pmResp 0)
  have hmeasures := hproceeds.measures h hjob
  have hlength := p.length_step (.pmResp 0)
  have hhears : p.hears (.pmResp 0) = [.level next 0] := by
    rw [hears, h.1]
    rfl
  have hless : 1 + (p.step (.pmResp 0)).1.remaining.length = p.remaining.length := by
    rw [← hmeasures.2.1, hhears]
    rw [List.length_append]
    rfl
  have hsearch : (p.step (.pmResp 0)).1.searchWork = 0 := by
    generalize p.step (.pmResp 0) = r at hproceeds
    cases hproceeds with
    | goesOn does cell level out =>
      refine absurd ?_ (level next 0)
      rw [hhears]
      exact List.mem_singleton.2 rfl
    | level more does heard split => exact does.searchWork_measure
    | measured does heard split => exact does.searchWork_rest
  rw [work, work, hsearch, h.searchWork_measure]
  omega

theorem work_compl (hcompl : p.complFb = true) (hrest : ∀ r, Proceeds p .compl job r →
      r.1.complFb = false → r.1.Does .rest) (h : p.Does job) :
    (p.step .compl).1.work + (p.step .compl).2.length < p.work := by
  have hlength := p.length_step .compl
  have hcleared : (p.step .compl).1.complFb = false := rfl
  have hdoes : (p.step .compl).1.Does .rest := hrest _ (step_proceeds h .compl) hcleared
  have hbefore : p.searchWork = 3 := if_pos hcompl
  rw [work, work, hdoes.remaining, hdoes.searchWork_rest, hbefore]
  change 3 * 0 + 0 + _ < _
  omega

theorem work_search {arfcn : ℕ} (h : p.Does (.search arfcn)) :
    ∃ e, (p.step e).1.work + (p.step e).2.length < p.work := by
  obtain ⟨htdma, hcompl, -, -, -⟩ := id h
  have hremaining : p.remaining = [] := h.remaining
  have hfb : ∀ mode, p.tdma = [.fb mode] →
      ∃ e, (p.step e).1.work + (p.step e).2.length < p.work := by
    intro mode hmode
    have hstep : p.step (.fbdetResp 12 none) = (p.l1sFbdetResp mode 12 none, []) := by
      rw [step, hmode]
      rfl
    have hbefore : p.searchWork = 4 + (fb0RetryCount - p.fbs.fbRetries) := by
      rw [searchWork, hmode, hcompl]
      rfl
    refine ⟨.fbdetResp 12 none, ?_⟩
    rw [hstep, work, work, hremaining, hbefore, l1sFbdetResp]
    dsimp only
    split
    · rename_i hretry
      change 3 * 0 + (if p.complFb = true then 3 else
        4 + (fb0RetryCount - (p.fbs.fbRetries + 1))) + 0 < 3 * 0 + _
      rw [hcompl, if_neg Bool.false_ne_true]
      omega
    · change 3 * 0 + 3 + 0 < 3 * 0 + _
      omega
  rcases htdma with hmode | hmode | ⟨hsb, -⟩
  · exact hfb 0 hmode
  · exact hfb 1 hmode
  · have hstep : p.step (.sbdetResp 0 none) = (p.l1sSbdetResp 0 none, []) := by
      rw [step, if_pos (by rw [hsb]; exact List.mem_singleton.2 rfl)]
      rfl
    have hbefore : p.searchWork = 4 := by
      rw [searchWork, hsb, hcompl]
      rfl
    have herased : (p.l1sSbdetResp 0 none).remaining = [] := by
      have hempty : (p.l1sSbdetResp 0 none).tdma = [] := by
        change p.tdma.erase .sb = []
        rw [hsb]
        rfl
      rw [remaining, hempty]
    have hafter : (p.l1sSbdetResp 0 none).searchWork = 3 := rfl
    refine ⟨.sbdetResp 0 none, ?_⟩
    rw [hstep, work, work, hremaining, hbefore, herased, hafter]
    exact Nat.lt_succ_self 3

end Phone

namespace ScanSystem
variable {cfg : CatcherConfig} {heard : List Radio} {s : ScanSystem}

/-- A request brings more work than it takes to carry it out. -/
def work (s : ScanSystem) : ℕ :=
  (s.up.map fun msg => 9 + 3 * (rangeOf msg).length).sum + s.phone.work + s.down.length

theorem work_phone {e : PhoneEvent}
    (h : (s.phone.step e).1.work + (s.phone.step e).2.length < s.phone.work) :
    ((scanSystem cfg).step s (.phone e)).1.work < s.work := by
  change (s.up.map _).sum + (s.phone.step e).1.work + (s.down ++ (s.phone.step e).2).length < _
  rw [work, List.length_append]
  omega

theorem work_handler (h : Stage cfg heard s) {msg : Octets} {up : List Octets}
    (hs : s.up = msg :: up) : ((scanSystem cfg).step s .handler).1.work < s.work := by
  have htakes : s.phone.TakesOver msg := h.handler_takes hs
  have hlength := s.phone.length_handler msg
  have hsearch := (s.phone.l1aL23Handler msg).1.searchWork_le
  change (s.step cfg .handler).1.work < s.work
  rw [step, hs, work, work, hs]
  dsimp only
  rw [Phone.work, htakes.remaining, List.map_cons, List.sum_cons, List.length_append]
  omega

/-- A message leads on, or it is off the queue. -/
theorem recv_goes_on (hmax : 0 ≤ cfg.rachMax) (h : Stage cfg heard s) {msg : Octets}
    {rest : List Octets} (hs : s.down = msg :: rest) : (scanSystem cfg).CanGive s IsReset ∨
      ((scanSystem cfg).step s (.recv {})).1.work < s.work := by
  have hreacts := h.recv_reacts hs {}
  have hstage := h.step (.recv {})
  have hstep : (scanSystem cfg).step s (.recv {}) =
      { s with down := rest }.answer (s.host.layer23Step cfg (.recv msg, {})) := by
    change s.step cfg (.recv {}) = _
    rw [ScanSystem.step, hs]
  have hgives : .resetReq ∈ (s.host.layer23Step cfg (.recv msg, {})).2 →
      (scanSystem cfg).CanGive s IsReset := by
    intro hreset
    refine .of_out (.recv {}) (o := .scanner .resetReq) ?_ rfl
    rw [hstep]
    exact List.mem_map_of_mem hreset
  have hless : ∀ host : Catcher,
      ({ s with down := rest }.answer (host, [])).1.work < s.work := by
    intro host
    rw [Stage.answer_silent, work, work, hs, List.length_cons]
    exact Nat.lt_succ_self _
  rw [hstep] at hstage ⊢
  generalize s.host.layer23Step cfg (.recv msg, {}) = r at hreacts hstage hgives hstep ⊢
  generalize levelsOf msg = taken at hreacts
  cases hreacts with
  | waits hw => exact Or.inr (hless _)
  | levels => exact Or.inr (hless _)
  | starts unstarted =>
    refine Or.inl (hgives ?_)
    have hreset : Catcher.step cfg s.host (.reset, {}) =
        Catcher.startPm cfg (Catcher.startSync cfg {})
          { s.host with started := true, pm := fun _ => {}, pmIndex := 0, syncCount := 0 } :=
      if_neg (by rw [unstarted]; exact Bool.false_ne_true)
    rw [hreset]
    exact Catcher.startPm_resets (Catcher.startSync_resets cfg {}) _
  | measured started on =>
    have hreset : .resetReq ∈ (Catcher.step cfg (s.host.takeLevels taken) (.pmDone, {})).2 :=
      Catcher.startPm_resets (Catcher.startSync_resets cfg {}) _
    exact Or.inl (hgives hreset)
  | missed started on =>
    have hreset : .resetReq ∈ (Catcher.step cfg s.host (.fbsbErr, {})).2 :=
      Catcher.startSync_resets cfg {} s.host
    exact Or.inl (hgives hreset)
  | found bsic started on =>
    have hattached := (hstage.attached_of_state (Or.inl rfl)).1
    have hnext := attached_goes_on hmax hattached
    rw [← hstep] at hnext
    exact Or.inl (.of_step (.recv {}) hnext)
  | aside attached record haside => exact Or.inl (attached_goes_on hmax attached)
  | timer attached record => exact Or.inl (attached_goes_on hmax attached)

/-- Wherever the errand is, there is a step that takes it further. -/
theorem stage_goes_on (hmax : 0 ≤ cfg.rachMax) (h : Stage cfg heard s) :
    (scanSystem cfg).CanGive s IsReset ∨ ∃ e, ((scanSystem cfg).step s e).1.work < s.work := by
  cases hs : s.up with
  | cons msg up => exact Or.inr ⟨.handler, work_handler h hs⟩
  | nil =>
    have hrecv : s.down ≠ [] → (scanSystem cfg).CanGive s IsReset ∨
        ∃ e, ((scanSystem cfg).step s e).1.work < s.work := by
      intro hdown
      obtain ⟨msg, rest, hs⟩ := List.exists_cons_of_ne_nil hdown
      exact (recv_goes_on hmax h hs).imp_right fun hless => ⟨_, hless⟩
    cases h with
    | starting host state up phone down coming =>
      rw [hs] at coming
      obtain ⟨m, hm, -⟩ := coming.resolve_left List.not_mem_nil
      exact hrecv (List.ne_nil_of_mem hm)
    | asked host on up front_side phone down =>
      rw [hs] at up
      simp at up
    | measuring host on up phone range filled_lt down =>
      have hnarrow : Job.Narrow (.measure _ _ _) := ⟨range, (Stage.band_bounds on).2, filled_lt⟩
      exact Or.inr ⟨_, work_phone (Phone.work_measure phone hnarrow)⟩
    | measured host on up phone down front_passing levels_lt back_passing =>
      refine hrecv ?_
      rw [down]
      simp
    | @searching arfcn job host on up job_eq phone down =>
      rcases job_eq with rfl | rfl | rfl
      · obtain ⟨e, hless⟩ := Phone.work_search phone
        exact Or.inr ⟨_, work_phone hless⟩
      · refine Or.inr ⟨_, work_phone (Phone.work_compl phone.2.1 ?_ phone)⟩
        intro r hproceeds hcleared
        cases hproceeds with
        | goesOn does cell level out => simp [does.2.1] at hcleared
        | found does cell heard conf_eq out_aside => exact does
      · refine Or.inr ⟨_, work_phone (Phone.work_compl phone.2.1 ?_ phone)⟩
        intro r hproceeds hcleared
        cases hproceeds with
        | goesOn does cell level out => simp [does.2.1] at hcleared
        | missed does heard conf_eq out_aside => exact does
    | searched host on up phone down front_passing answer =>
      refine hrecv ?_
      rw [down]
      simp
    | attached attached arfcn record up phone cell down =>
      exact Or.inl (attached_goes_on hmax attached)

end ScanSystem

/-- From every state that the two reach, there are steps that lead the scanner to its next errand,
unless channels may be requested without end. -/
theorem scan_goes_on {cfg : CatcherConfig} (hmax : 0 ≤ cfg.rachMax) (booted : Bool)
    (es : List ScanEvent) :
    ∃ more, .scanner .resetReq ∈
      ((scanSystem cfg).run ((scanSystem cfg).run (ScanSystem.start booted) es).1 more).2 := by
  have hreached : ∃ heard, Stage cfg heard ((scanSystem cfg).run (ScanSystem.start booted) es).1 :=
    ⟨_, Stage.run cfg booted es⟩
  have hgives := canGive_of_work (M := scanSystem cfg) (Q := IsReset)
    (I := fun s => ∃ heard, Stage cfg heard s) ScanSystem.work ?_ hreached
  · obtain ⟨more, o, ho, rfl⟩ := hgives
    exact ⟨more, ho⟩
  · rintro s ⟨heard, hstage⟩
    exact (ScanSystem.stage_goes_on hmax hstage).imp_right fun ⟨e, hless⟩ =>
      ⟨e, ⟨_, hstage.step e⟩, hless⟩

/-- The phone has come up and measures when the program stops to look for its messages. -/
theorem scan_goes_on_measuring :
    ∃ more, .scanner .resetReq ∈ ((scanSystem {}).run
      ((scanSystem {}).run (ScanSystem.start true)
        [.recv {}, .handler, .handler, .handler, .phone (.pmResp 40)]).1 more).2 :=
  scan_goes_on (by decide) true _

end ImsiCatcher

import ImsiCatcher.Isolation

/-!
# How often a cell is asked for a channel

`start_rach` counts its requests with `rach_count`, which a timeout raises and which
`new_sysinfo` sets back to zero. `new_sysinfo` is reached once by a cell that does not change
its system information; a cell that does brings the scanner there again.
-/

namespace ImsiCatcher

def isChanRqd : CatcherOut → Bool
  | .chanRqd _ _ => true
  | _ => false

def requests (out : List CatcherOut) : ℕ := out.countP isChanRqd

namespace Catcher

/-- `bcch` reads changed system information that is complete, and starts to ask for a channel. -/
def completes (c : Catcher) (e : CatcherEvent × Surroundings) : Bool :=
  ((c.heard e).bind c.sysinfo.bcchDecode).any Gsm48Sysinfo.complete

/-- The `q` requests that were sent since `start_sync`, where `k` messages completed the system
information. In the RACH state `rach_count` shows them. -/
structure Counts (cfg : CatcherConfig) (c : Catcher) (q k : ℕ) : Prop where
  bound : (q : ℤ) ≤ cfg.rachMax
  unasked : k = 0 → q = 0 ∧ c.state ≠ .rach
  shown : c.state = .rach → q ≤ c.rachCount + 1 ∧ (c.rachCount : ℤ) < cfg.rachMax

/-- A result with its requests stays within the bound, and is counted if it does not leave. -/
structure Bounded (cfg : CatcherConfig) (q k : ℕ) (r : Catcher × List CatcherOut) : Prop where
  bound : ((q + requests r.2 : ℕ) : ℤ) ≤ cfg.rachMax
  counted : requestsReset r.2 = false → r.1.Counts cfg (q + requests r.2) k

theorem requests_append (out out' : List CatcherOut) :
    requests (out ++ out') = requests out + requests out' := List.countP_append

variable {cfg : CatcherConfig} {env : Surroundings} {c : Catcher} {q k : ℕ}

theorem Counts.congr {c' : Catcher} (h : c.Counts cfg q k) (hstate : c'.state = c.state)
    (hcount : c'.rachCount = c.rachCount) : c'.Counts cfg q k := by
  refine ⟨h.bound, ?_, ?_⟩
  · rw [hstate]
    exact h.unasked
  · rw [hstate, hcount]
    exact h.shown

/-- Outside of the RACH state `rach_count` shows nothing. -/
theorem Counts.move {c' : Catcher} (h : c.Counts cfg q k) (hstate : c'.state ≠ .rach) :
    c'.Counts cfg q k :=
  ⟨h.bound, fun hk => ⟨(h.unasked hk).1, hstate⟩, fun hrach => absurd hrach hstate⟩

theorem startPm_requests {sync : Catcher → Catcher × List CatcherOut}
    (hsync : ∀ c, requests (sync c).2 = 0) : requests (startPm cfg sync c).2 = 0 := by
  unfold startPm
  simp only
  split
  · rw [requests_append, hsync]
    rfl
  · rfl

theorem startSync_requests (cfg : CatcherConfig) (env : Surroundings) (c : Catcher) :
    requests (c.startSync cfg env).2 = 0 := by
  unfold startSync
  simp only
  split
  · exact startPm_requests fun _ => rfl
  · rfl

theorem Bounded.prepend {r : Catcher × List CatcherOut} (h : Bounded cfg q k r)
    (out : List CatcherOut) (hout : requests out = 0) : Bounded cfg q k (r.1, out ++ r.2) := by
  refine ⟨?_, ?_⟩
  · rw [requests_append, hout, Nat.zero_add]
    exact h.bound
  · intro hstays
    rw [requestsReset_append, Bool.or_eq_false_iff] at hstays
    rw [requests_append, hout, Nat.zero_add]
    exact h.counted hstays.2

theorem bounded_startSync (hq : (q : ℤ) ≤ cfg.rachMax) (c : Catcher) :
    Bounded cfg q k (c.startSync cfg env) := by
  refine ⟨?_, ?_⟩
  · rw [startSync_requests]
    exact hq
  · intro hstays
    rw [startSync_requestsReset] at hstays
    exact absurd hstays (by decide)

theorem bounded_stay (h : c.Counts cfg q k) : Bounded cfg q k (c, []) :=
  ⟨h.bound, fun _ => h⟩

theorem bounded_startRach (hk : k ≠ 0) (hq : q ≤ c.rachCount)
    (hcount : (c.rachCount : ℤ) ≤ cfg.rachMax) : Bounded cfg q k (startRach cfg env c) := by
  unfold startRach
  split
  · have hsync : Bounded cfg q k (c.startSync cfg env) := bounded_startSync (by omega) c
    exact hsync.prepend [.logSysinfo c.sysinfo c.meas] rfl
  · have hone : ∀ cr combined, requests [.chanRqd cr combined] = 1 := fun _ _ => rfl
    have hlt : (c.rachCount : ℤ) < cfg.rachMax := by omega
    refine ⟨?_, fun _ => ?_⟩
    · rw [hone]
      omega
    · rw [hone]
      exact ⟨by omega, fun hzero => absurd hzero hk, fun _ => ⟨Nat.succ_le_succ hq, hlt⟩⟩

/-- The first complete system information finds no request behind it. -/
theorem bounded_newSysinfo (h : c.Counts cfg q k) (hk : k + c.sysinfo.complete.toNat ≤ 1) :
    Bounded cfg q (k + c.sysinfo.complete.toNat) (newSysinfo cfg env c) := by
  unfold newSysinfo
  split
  · rename_i hcomplete
    rw [hcomplete, Bool.toNat_true] at hk ⊢
    obtain ⟨hq, -⟩ := h.unasked (by omega)
    have hbound := h.bound
    rw [hq] at hbound ⊢
    exact bounded_startRach (Nat.succ_ne_zero k) (Nat.zero_le _) hbound
  · rename_i hcomplete
    rw [Bool.not_eq_true] at hcomplete
    rw [hcomplete]
    exact bounded_stay (h.congr rfl rfl)

theorem bounded_bcch (h : c.Counts cfg q k) {msg : Octets}
    (hk : k + ((c.sysinfo.bcchDecode msg).any Gsm48Sysinfo.complete).toNat ≤ 1) :
    Bounded cfg q (k + ((c.sysinfo.bcchDecode msg).any Gsm48Sysinfo.complete).toNat)
      (c.bcch cfg env msg) := by
  unfold bcch
  cases hdecode : c.sysinfo.bcchDecode msg with
  | none => exact bounded_stay h
  | some s =>
    rw [hdecode] at hk
    have hnew : Bounded cfg q (k + s.complete.toNat)
        (newSysinfo cfg env { c with sysinfo := s }) :=
      bounded_newSysinfo (c := { c with sysinfo := s }) (h.congr rfl rfl) hk
    refine hnew.prepend _ ?_
    split <;> rfl

theorem bounded_taResult (hq : (q : ℤ) ≤ cfg.rachMax) (c : Catcher) (ta : UInt8) :
    Bounded cfg q k (c.taResult cfg env ta) := by
  unfold taResult
  have hsync : Bounded cfg q k (c.stopTimer.startSync cfg env) := bounded_startSync hq _
  have hlog := hsync.prepend [.logSysinfo c.stopTimer.sysinfo c.stopTimer.meas] rfl
  refine hlog.prepend _ ?_
  split <;> rfl

theorem bounded_pchAgch (h : c.Counts cfg q k) (msg : Octets) :
    Bounded cfg q k (c.pchAgch cfg env msg) := by
  have hta : ∀ ta, Bounded cfg q k (c.taResult cfg env ta) := bounded_taResult h.bound c
  have hstay := bounded_stay h
  unfold pchAgch immAss immAssExt immAssRej
  repeat' split
  all_goals first | exact hta _ | exact hstay

theorem bounded_rxPhDataInd (h : c.Counts cfg q k) {chan : Chan} {rxLevel : UInt8}
    {fireCrc : ℕ} {l3 : Octets}
    (hk : k + (c.completes (.dataInd chan rxLevel fireCrc l3, env)).toNat ≤ 1) :
    Bounded cfg q (k + (c.completes (.dataInd chan rxLevel fireCrc l3, env)).toNat)
      (c.rxPhDataInd cfg env chan rxLevel fireCrc l3) := by
  unfold rxPhDataInd
  extract_lets c'
  have h' : c'.Counts cfg q k := h.congr rfl rfl
  by_cases hread : fireCrc < 2 ∧ (c.state = .read ∨ c.state = .rach)
  · obtain ⟨hcrc, hstate⟩ := hread
    have hstate' : ¬ (c'.state ≠ .read ∧ c'.state ≠ .rach) := by
      rintro ⟨hne, hne'⟩
      exact hstate.elim hne hne'
    rw [if_neg (by omega)]
    unfold unitDataInd
    rw [if_neg hstate']
    cases chan with
    | pchAgch => exact bounded_pchAgch h' l3
    | bcch =>
      have hheard : c.heard (.dataInd .bcch rxLevel fireCrc l3, env) = some l3 :=
        if_pos ⟨hcrc, hstate⟩
      unfold completes at hk ⊢
      rw [hheard] at hk ⊢
      exact bounded_bcch h' hk
    | other => exact bounded_stay h'
  · have hheard : c.heard (.dataInd chan rxLevel fireCrc l3, env) = none := by
      cases chan with
      | bcch => exact if_neg hread
      | pchAgch => rfl
      | other => rfl
    rw [completes, hheard]
    split
    · exact bounded_stay h'
    · rename_i hcrc
      have hstate : c'.state ≠ .read ∧ c'.state ≠ .rach :=
        ⟨fun hstate => hread ⟨by omega, Or.inl hstate⟩,
          fun hstate => hread ⟨by omega, Or.inr hstate⟩⟩
      unfold unitDataInd
      rw [if_pos hstate]
      exact bounded_stay h'

theorem bounded_timeoutCb (h : c.Counts cfg q k) : Bounded cfg q k (c.timeoutCb cfg env) := by
  unfold timeoutCb
  cases hstate : c.state with
  | read => exact bounded_startSync h.bound c
  | rach =>
    obtain ⟨hq, hcount⟩ := h.shown hstate
    have hk : k ≠ 0 := fun hk => (h.unasked hk).2 hstate
    refine bounded_startRach hk hq ?_
    dsimp only
    omega
  | pm => exact bounded_stay h
  | sync => exact bounded_stay h

/-- A measurement goes on to the next band, or to `start_sync`. -/
theorem startPm_counts (h : c.Counts cfg q k) (c' : Catcher) :
    ((q + requests (startPm cfg (startSync cfg env) c').2 : ℕ) : ℤ) ≤ cfg.rachMax ∧
      (logsPower (startPm cfg (startSync cfg env) c').2 = false →
        (startPm cfg (startSync cfg env) c').1.Counts cfg
          (q + requests (startPm cfg (startSync cfg env) c').2) k) := by
  rw [startPm_requests (startSync_requests cfg env), Nat.add_zero]
  refine ⟨h.bound, fun hlog => ?_⟩
  unfold startPm at hlog ⊢
  simp only at hlog ⊢
  split at hlog
  · exact absurd hlog (by simp [logsPower])
  · rename_i hband
    rw [if_neg hband]
    exact h.move (by simp)

/-- The bound survives a step, and the count goes on where the step does not call `start_sync`. -/
theorem counts_step (h : c.Counts cfg q k) {e : CatcherEvent × Surroundings}
    (hk : k + (c.completes e).toNat ≤ 1) :
    ((q + requests (step cfg c e).2 : ℕ) : ℤ) ≤ cfg.rachMax ∧
      (callsSync e (step cfg c e).2 = false →
        (step cfg c e).1.Counts cfg (q + requests (step cfg c e).2)
          (k + (c.completes e).toNat)) := by
  have hquiet : ∀ k' (r : Catcher × List CatcherOut), Bounded cfg q k' r →
      ((q + requests r.2 : ℕ) : ℤ) ≤ cfg.rachMax ∧
        (requestsReset r.2 = false → r.1.Counts cfg (q + requests r.2) k') :=
    fun _ r hr => ⟨hr.bound, hr.counted⟩
  obtain ⟨e, env⟩ := e
  cases e with
  | pmRes bandArfcn rxLev => exact hquiet _ _ (bounded_stay (h.congr rfl rfl))
  | pmDone => exact startPm_counts h _
  | fbsbResp bsic => exact hquiet _ _ (bounded_stay (h.move (by simp [startTimer])))
  | fbsbErr => exact hquiet _ _ (bounded_startSync h.bound c)
  | reset =>
    simp only [step]
    split
    · exact hquiet _ _ (bounded_stay h)
    · exact startPm_counts h _
  | timer =>
    simp only [step]
    split
    · exact hquiet _ _ (bounded_timeoutCb (h.congr rfl rfl))
    · exact hquiet _ _ (bounded_stay h)
  | dataInd chan rxLevel fireCrc l3 => exact hquiet _ _ (bounded_rxPhDataInd h hk)
  | chanConf data =>
    refine hquiet _ _ (bounded_stay ?_)
    unfold chanConf
    simp only
    split <;> exact h.congr rfl rfl

end Catcher

/-- Between two calls of `start_sync` at most `RACH_MAX` channels are requested, if at most one
message leaves changed system information complete there. -/
theorem requests_bounded (cfg : CatcherConfig) (env : Surroundings) (c : Catcher)
    (es : List (CatcherEvent × Surroundings)) (hmax : 0 ≤ cfg.rachMax)
    (hes : (catcher cfg).stepsUntil callsSync Catcher.completes (c.startSync cfg env).1 es ≤ 1) :
    (requests ((catcher cfg).runUntil callsSync (c.startSync cfg env).1 es) : ℤ) ≤ cfg.rachMax := by
  have hsync := (Catcher.startSync_left cfg env c).state
  have hstart : (c.startSync cfg env).1.Counts cfg 0 0 :=
    ⟨hmax, fun _ => ⟨rfl, hsync⟩, fun hrach => absurd hrach hsync⟩
  have hbound : ∀ (c : Catcher) (q k : ℕ), c.Counts cfg q k → q ≤ cfg.rachMax.toNat := by
    intro c q k h
    have hle := h.bound
    omega
  have hstep : ∀ (c : Catcher) (q k : ℕ) (e : CatcherEvent × Surroundings),
      c.Counts cfg q k → k + (c.completes e).toNat ≤ 1 →
      q + requests ((catcher cfg).step c e).2 ≤ cfg.rachMax.toNat ∧
        (callsSync e ((catcher cfg).step c e).2 = false →
          ((catcher cfg).step c e).1.Counts cfg (q + requests ((catcher cfg).step c e).2)
            (k + (c.completes e).toNat)) := by
    intro c q k e h hk
    obtain ⟨hle, hnext⟩ := Catcher.counts_step h hk
    have hnat : q + requests (Catcher.step cfg c e).2 ≤ cfg.rachMax.toNat := by omega
    exact ⟨hnat, hnext⟩
  rw [← Nat.zero_add (Machine.stepsUntil _ _ _ _ es)] at hes
  have hrun : 0 + requests ((catcher cfg).runUntil callsSync (c.startSync cfg env).1 es) ≤
      cfg.rachMax.toNat := Machine.countP_runUntil_le hbound hstep hstart hes
  omega

theorem requests_bounded_plain :
    (requests ((catcher {}).runUntil callsSync (measuredCatcher.startSync {} {}).1
      (readRun (plainSi 0x1c) ++ [timerFired])) : ℤ) ≤ 2 :=
  requests_bounded {} {} measuredCatcher _ (by decide) (by decide +kernel)

/-- A changed SI 4 behind the first request sets the counter back, and two more follow. -/
theorem requests_exceed : ¬ ∀ (cfg : CatcherConfig) (env : Surroundings) (c : Catcher)
    (es : List (CatcherEvent × Surroundings)), 0 ≤ cfg.rachMax →
    (requests ((catcher cfg).runUntil callsSync (c.startSync cfg env).1 es) : ℤ) ≤
      cfg.rachMax := by
  intro h
  have hthree := h {} {} measuredCatcher ((.fbsbResp 0, {}) ::
    bcchFrames [plainSi 0x19, plainSi 0x1a, plainSi 0x1b, plainSi 0x1c,
      (plainSi 0x1c).set 10 0x01] ++ [timerFired]) (by decide)
  revert hthree
  decide +kernel

namespace Catcher
variable {cfg : CatcherConfig} {env : Surroundings} {c : Catcher}

/-! ### What a changed message makes possible -/

/-- A request that the counter allows is sent, and the timer runs. -/
structure Asks (c : Catcher) (r : Catcher × List CatcherOut) : Prop where
  state : r.1.state = .rach
  timer : r.1.timerPending = true
  count : r.1.rachCount = c.rachCount
  request : requests r.2 = 1
  stays : requestsReset r.2 = false

theorem startRach_asks (h : (c.rachCount : ℤ) < cfg.rachMax) :
    Asks c (startRach cfg env c) := by
  unfold startRach
  rw [if_neg (by omega)]
  exact ⟨rfl, rfl, rfl, rfl, rfl⟩

/-- Each expiry of the timer sends a request, while the counter allows it. -/
theorem requests_timers {k : ℕ} (hstate : c.state = .rach) (htimer : c.timerPending = true)
    (hk : (c.rachCount + k : ℤ) < cfg.rachMax) :
    requests ((catcher cfg).runUntil callsSync c (List.replicate k timerFired)) = k := by
  induction k generalizing c with
  | zero => rfl
  | succ k ih =>
    have hcb : step cfg c timerFired =
        startRach cfg {} { c.stopTimer with rachCount := c.rachCount + 1 } := by
      simp only [timerFired, step, htimer, if_true, timeoutCb]
      rw [show c.stopTimer.state = .rach from hstate]
      rfl
    have hasks : Asks { c.stopTimer with rachCount := c.rachCount + 1 }
        (step cfg c timerFired) := by
      rw [hcb]
      exact startRach_asks (by push_cast at hk ⊢; omega)
    have hrest := ih hasks.state hasks.timer (by rw [hasks.count]; push_cast at hk ⊢; omega)
    rw [List.replicate_succ, Machine.runUntil, requests_append]
    change requests (step cfg c timerFired).2 + requests (if
      callsSync timerFired (step cfg c timerFired).2 then [] else _) = _
    rw [show callsSync timerFired (step cfg c timerFired).2 = false from hasks.stays,
      if_neg Bool.false_ne_true, hasks.request]
    change 1 + requests ((catcher cfg).runUntil callsSync (step cfg c timerFired).1 _) = _
    rw [hrest, Nat.add_comm]

end Catcher

/-- In the RACH state a changed message that is complete lets the cell be asked as often again
as it may be asked in all. -/
theorem requests_again_after_change (cfg : CatcherConfig) (c : Catcher) (msg : Octets)
    (s : Gsm48Sysinfo) (hstate : c.state = .rach) (hdecode : c.sysinfo.bcchDecode msg = some s)
    (hcomplete : s.complete = true) (hmax : 0 < cfg.rachMax) :
    (requests ((catcher cfg).runUntil callsSync c (bcchFrames [msg] ++
      List.replicate (cfg.rachMax.toNat - 1) timerFired)) : ℤ) = cfg.rachMax := by
  let meas : RxMeasStat :=
    { frames := c.meas.frames + 1, rxlev := c.meas.rxlev + (60 : UInt8).toUInt32 }
  let c' : Catcher := { c with timerPending := false, meas := meas, sysinfo := s, rachCount := 0 }
  let mode : List CatcherOut :=
    if messageType msg = 0x1b then [.ccchModeReq (s.ccchConf = 1)] else []
  have hstep : Catcher.step cfg c (.dataInd .bcch 60 0 msg, {}) =
      ((Catcher.startRach cfg {} c').1, mode ++ (Catcher.startRach cfg {} c').2) := by
    simp only [Catcher.step, Catcher.rxPhDataInd, Catcher.unitDataInd, hstate, Catcher.bcch,
      hdecode, Catcher.newSysinfo, hcomplete]
    rfl
  have hasks : c'.Asks (Catcher.startRach cfg {} c') := Catcher.startRach_asks hmax
  have hmode : requests mode = 0 ∧ requestsReset mode = false := by
    unfold mode
    split <;> exact ⟨rfl, rfl⟩
  have hleft : (((Catcher.startRach cfg {} c').1.rachCount : ℤ) +
      (cfg.rachMax.toNat - 1 : ℕ)) < cfg.rachMax := by
    rw [hasks.count]
    change ((0 : ℕ) : ℤ) + _ < _
    omega
  have htimers := Catcher.requests_timers hasks.state hasks.timer hleft
  rw [bcchFrames, List.map_singleton, List.singleton_append, Machine.runUntil,
    Catcher.requests_append]
  change ((requests (Catcher.step cfg c _).2 + requests (if requestsReset
    (Catcher.step cfg c _).2 then [] else
      (catcher cfg).runUntil callsSync (Catcher.step cfg c _).1 _) : ℕ) : ℤ) = _
  rw [hstep]
  dsimp only
  rw [requestsReset_append, hmode.2, hasks.stays, Bool.false_or, if_neg Bool.false_ne_true,
    Catcher.requests_append, hmode.1, hasks.request, htimers]
  omega

end ImsiCatcher

import ImsiCatcher.BandIndex
import ImsiCatcher.ScanProtocol

/-!
# What holds between the scanner and the phone

What `Stage` says of the places of the errand, in terms of the messages alone: a scanner on an
errand has exactly one request or answer under way or the phone busy, and one in a cell has none
and a timer that runs. All frames on their way to it are then frames of its cell. What the scanner
does in this system is a run of the scanner on its own, and it never reads behind its table of
bands.
-/

namespace ImsiCatcher

/-- A request that makes the phone busy. -/
def isCommand (msg : Octets) : Bool := octet msg 0 = l1ctlPmReq || octet msg 0 = l1ctlFbsbReq

def isAnswer (msg : Octets) : Bool := (l1ctlRecv msg).any fun
  | .pmDone | .fbsbResp _ _ _ | .fbsbErr _ => true
  | _ => false

/-- A callback set is scheduled, or the end of a search has to be said. -/
def Phone.busy (p : Phone) : Bool := !p.tdma.isEmpty || p.complFb

/-- The errands that are on their way, with the phone, or answered. -/
def ScanSystem.errands (s : ScanSystem) : ℕ :=
  s.up.countP isCommand + s.phone.busy.toNat + s.down.countP isAnswer

section messages

theorem isAnswer_passing {msg : Octets} (h : Passing msg) : isAnswer msg = false := by
  obtain ⟨heard, cell, sig, hrecv, haside⟩ := h
  rw [isAnswer, hrecv]
  cases sig with
  | pmDone => exact haside.elim
  | fbsbResp bandArfcn snr bsic => exact haside.elim
  | fbsbErr bandArfcn => exact haside.elim
  | _ => rfl

theorem isAnswer_pmConf (done : Bool) {levels : List (ℕ × UInt8)}
    (h : ∀ m ∈ levels, m.1 < 65536) : isAnswer (pmConf done levels) = done := by
  rw [isAnswer, l1ctlRecv_pmConf done h, List.any_append, List.any_map]
  have hlevels : (levels.any fun _ => false) = false := List.any_eq_false.2 fun _ _ => nofun
  cases done
  · exact Bool.or_eq_false_iff.2 ⟨hlevels, rfl⟩
  · exact Bool.or_eq_true_iff.2 (Or.inr rfl)

theorem isAnswer_levels {msg : Octets} (h : Levels msg) : isAnswer msg = false := by
  obtain ⟨levels, hlevels, rfl⟩ := h
  exact isAnswer_pmConf false hlevels

theorem isAnswer_tuneAnswer {heard : List Radio} {cell arfcn : ℕ} {msg : Octets}
    {behind : List Octets} (h : TuneAnswer heard cell arfcn msg behind) :
    isAnswer msg = true ∧ ∀ m ∈ behind, Passing m := by
  cases h with
  | found snr bsic conf there hbehind =>
    rw [isAnswer, conf]
    exact ⟨rfl, fun m hm => (hbehind m hm).passing⟩
  | missed conf hbehind =>
    rw [isAnswer, conf]
    exact ⟨rfl, hbehind⟩

theorem isCommand_side {msg : Octets} (h : SideRequest msg) : isCommand msg = false := by
  cases h <;> rfl

theorem isCommand_errand (errand : Errand) : isCommand errand.message = true := by
  cases errand <;> rfl

theorem countP_eq_zero_of {q : Octets → Bool} {msgs : List Octets}
    (h : ∀ m ∈ msgs, q m = false) : msgs.countP q = 0 := by
  rw [List.countP_eq_zero]
  intro m hm
  rw [h m hm]
  exact Bool.false_ne_true

end messages

theorem Phone.busy_rest {p : Phone} (h : p.Does .rest) : p.busy = false := by
  rw [busy, h.1, h.2.1]
  rfl

theorem Phone.busy_job {p : Phone} {job : Job} (h : p.Does job)
    (hjob : (∃ next last filled, job = .measure next last filled) ∨
      ∃ arfcn, job = .search arfcn ∨ job = .found arfcn ∨ job = .missed arfcn) :
    p.busy = true := by
  rcases hjob with ⟨next, last, filled, rfl⟩ | ⟨arfcn, rfl | rfl | rfl⟩
  · rw [busy, h.1]
    rfl
  · rcases h.1 with htdma | htdma | ⟨htdma, -⟩ <;> (rw [busy, htdma]; rfl)
  · rw [busy, h.1, h.2.1]
    rfl
  · rw [busy, h.1, h.2.1]
    rfl

def Catcher.waiting (c : Catcher) : Bool := c.started && (c.state = .pm || c.state = .sync)

theorem Catcher.waiting_on {cfg : CatcherConfig} {c : Catcher} {errand : Errand}
    (hstarted : c.started = true) (h : c.On cfg errand) : c.waiting = true := by
  rw [waiting, hstarted]
  cases errand with
  | measure band => rw [h.1]; rfl
  | tune arfcn => rw [h.1]; rfl

namespace Stage
variable {cfg : CatcherConfig} {heard : List Radio} {s : ScanSystem}

theorem errands_eq (h : Stage cfg heard s) : s.errands = s.host.waiting.toNat := by
  unfold ScanSystem.errands
  cases h with
  | starting host state up phone down coming =>
    have hwaiting : s.host.waiting = false := by
      rw [Catcher.waiting, host]
      rfl
    rw [countP_eq_zero_of fun m hm => isCommand_side (up m hm), Phone.busy_rest phone,
      countP_eq_zero_of fun m hm => isAnswer_passing (down m hm), hwaiting]
    rfl
  | asked host on up front_side phone down =>
    rw [up, List.countP_append, countP_eq_zero_of fun m hm => isCommand_side (front_side m hm),
      List.countP_singleton, isCommand_errand, Phone.busy_rest phone,
      countP_eq_zero_of fun m hm => isAnswer_passing (down m hm), Catcher.waiting_on host on]
    rfl
  | measuring host on up phone range filled_lt down =>
    have hdown : ∀ m ∈ s.down, isAnswer m = false :=
      fun m hm => (down m hm).elim isAnswer_passing isAnswer_levels
    rw [up, Phone.busy_job phone (Or.inl ⟨_, _, _, rfl⟩), countP_eq_zero_of hdown,
      Catcher.waiting_on host on]
    rfl
  | measured host on up phone down front_passing levels_lt back_passing =>
    have hfront : ∀ m ∈ _, isAnswer m = false :=
      fun m hm => (front_passing m hm).elim isAnswer_passing isAnswer_levels
    rw [up, Phone.busy_rest phone, down, List.countP_append, List.countP_cons,
      countP_eq_zero_of hfront, countP_eq_zero_of fun m hm => isAnswer_passing (back_passing m hm),
      isAnswer_pmConf true levels_lt, Catcher.waiting_on host on]
    rfl
  | searching host on up job_eq phone down =>
    rw [up, Phone.busy_job phone (Or.inr ⟨_, job_eq⟩),
      countP_eq_zero_of fun m hm => isAnswer_passing (down m hm), Catcher.waiting_on host on]
    rfl
  | searched host on up phone down front_passing answer =>
    obtain ⟨hanswer, hback⟩ := isAnswer_tuneAnswer answer
    rw [up, Phone.busy_rest phone, down, List.countP_append, List.countP_cons,
      countP_eq_zero_of fun m hm => isAnswer_passing (front_passing m hm),
      countP_eq_zero_of fun m hm => isAnswer_passing (hback m hm), hanswer,
      Catcher.waiting_on host on]
    rfl
  | attached attached arfcn record up phone cell down =>
    have hwaiting : s.host.waiting = false := by
      rw [Catcher.waiting]
      rcases attached.state with hstate | hstate <;> simp [hstate]
    rw [countP_eq_zero_of fun m hm => isCommand_side (up m hm), Phone.busy_rest phone,
      countP_eq_zero_of fun m hm => isAnswer_passing (down m hm).passing, hwaiting]
    rfl

end Stage

/-- In every state that the two reach, whatever the order of their steps and whatever comes in over
the radio: a scanner that waits for an answer has exactly one errand under way; otherwise there is
none, and in the READ and the RACH state the timer runs. -/
theorem scan_errands (cfg : CatcherConfig) (booted : Bool) (es : List ScanEvent) :
    let s := ((scanSystem cfg).run (ScanSystem.start booted) es).1
    s.errands = s.host.waiting.toNat ∧
      (s.host.state = .read ∨ s.host.state = .rach → s.host.timerPending = true) := by
  have hstage := Stage.run cfg booted es
  exact ⟨hstage.errands_eq, fun hstate => (hstage.attached_of_state hstate).1.timer⟩

/-! ### What the scanner makes of a message -/

def levelsOf (msg : Octets) : List (ℕ × UInt8) := (l1ctlRecv msg).filterMap fun
  | .pmRes bandArfcn rxLev => some (bandArfcn, rxLev)
  | _ => none

theorem levelsOf_passing {msg : Octets} (h : Passing msg) : levelsOf msg = [] := by
  obtain ⟨heard, cell, sig, hrecv, haside⟩ := h
  rw [levelsOf, hrecv]
  cases sig with
  | pmRes bandArfcn rxLev => exact haside.elim
  | _ => rfl

theorem levelsOf_pmConf (done : Bool) {levels : List (ℕ × UInt8)}
    (h : ∀ m ∈ levels, m.1 < 65536) : levelsOf (pmConf done levels) = levels := by
  have hlevels : (levels.map fun m => L1Signal.pmRes m.1 m.2).filterMap (fun
      | .pmRes bandArfcn rxLev => some (bandArfcn, rxLev)
      | _ => none) = levels := by
    rw [List.filterMap_map]
    exact List.filterMap_some
  rw [levelsOf, l1ctlRecv_pmConf done h, List.filterMap_append, hlevels]
  cases done <;> exact List.append_nil _

theorem levelsOf_tuneAnswer {heard : List Radio} {cell arfcn : ℕ} {msg : Octets}
    {behind : List Octets} (h : TuneAnswer heard cell arfcn msg behind) : levelsOf msg = [] := by
  cases h with
  | found snr bsic conf there hbehind =>
    rw [levelsOf, conf]
    rfl
  | missed conf hbehind =>
    rw [levelsOf, conf]
    rfl

namespace Catcher

/-- What the scanner does with a message of the phone, of which it takes levels, or with an
expiry. -/
inductive Reacts (cfg : CatcherConfig) (env : Surroundings) (heard : List Radio) (c : Catcher) :
    List (ℕ × UInt8) → Catcher × List CatcherOut → Prop
  | waits {c' : Catcher} (hw : Waits c c') : Reacts cfg env heard c [] (c', [])
  | levels {levels : List (ℕ × UInt8)} : Reacts cfg env heard c levels (c.takeLevels levels, [])
  | starts (unstarted : c.started = false) :
      Reacts cfg env heard c [] (step cfg c (.reset, env))
  | measured {band : ℕ × ℕ} {levels : List (ℕ × UInt8)} (started : c.started = true)
      (on : c.On cfg (.measure band)) :
      Reacts cfg env heard c levels (step cfg (c.takeLevels levels) (.pmDone, env))
  | found {arfcn : ℕ} (bsic : UInt8) (started : c.started = true)
      (on : c.On cfg (.tune arfcn)) : Reacts cfg env heard c [] (step cfg c (.fbsbResp bsic, env))
  | missed {arfcn : ℕ} (started : c.started = true) (on : c.On cfg (.tune arfcn)) :
      Reacts cfg env heard c [] (step cfg c (.fbsbErr, env))
  | aside {s : L1Signal} (attached : c.Attached cfg) (record : c.sysinfo.FromCell heard c.arfcn)
      (haside : s.Aside heard c.arfcn) : Reacts cfg env heard c [] (c.rcvSignal cfg (s, env))
  | timer (attached : c.Attached cfg) (record : c.sysinfo.FromCell heard c.arfcn) :
      Reacts cfg env heard c [] (step cfg c (.timer, env))

variable {cfg : CatcherConfig} {env : Surroundings} {heard : List Radio} {c : Catcher}

theorem waits_reacts {r : Catcher × List CatcherOut} (hw : Waits c r.1 ∧ r.2 = []) :
    Reacts cfg env heard c [] r := by
  obtain ⟨c', out⟩ := r
  obtain ⟨hwaits, rfl⟩ := hw
  exact .waits hwaits

end Catcher

namespace Stage
variable {cfg : CatcherConfig} {heard : List Radio} {s : ScanSystem}

theorem timer_reacts (h : Stage cfg heard s) (env : Surroundings) :
    Catcher.Reacts cfg env heard s.host [] (s.host.layer23Step cfg (.timer, env)) := by
  by_cases hstate : s.host.state = .read ∨ s.host.state = .rach
  · obtain ⟨attached, -, record, -⟩ := h.attached_of_state hstate
    exact .timer attached record
  · exact Catcher.waits_reacts (Catcher.timer_waits hstate)

theorem passing_reacts {c : Catcher} {msg : Octets} (hmsg : Passing msg)
    (hdeaf : ¬(c.state = .read ∨ c.state = .rach)) (hstarted : c.started = true)
    (env : Surroundings) :
    Catcher.Reacts cfg env heard c (levelsOf msg) (c.layer23Step cfg (.recv msg, env)) := by
  rw [levelsOf_passing hmsg]
  obtain ⟨heard', cell, sig, hrecv, hsig⟩ := hmsg
  rw [Catcher.recv_one hrecv]
  exact Catcher.waits_reacts (Catcher.aside_waits hdeaf hsig fun _ => hstarted)

theorem levels_reacts {c : Catcher} {msg : Octets} (hmsg : Passing msg ∨ Levels msg)
    (hdeaf : ¬(c.state = .read ∨ c.state = .rach)) (hstarted : c.started = true)
    (env : Surroundings) :
    Catcher.Reacts cfg env heard c (levelsOf msg) (c.layer23Step cfg (.recv msg, env)) := by
  rcases hmsg with hpassing | ⟨levels, hlevels, rfl⟩
  · exact passing_reacts hpassing hdeaf hstarted env
  · rw [Catcher.recv_levels hlevels, levelsOf_pmConf false hlevels]
    exact .levels

theorem recv_reacts (h : Stage cfg heard s) {msg : Octets} {rest : List Octets}
    (hs : s.down = msg :: rest) (env : Surroundings) :
    Catcher.Reacts cfg env heard s.host (levelsOf msg)
      (s.host.layer23Step cfg (.recv msg, env)) := by
  have hmem : msg ∈ s.down := by
    rw [hs]
    exact List.mem_cons_self
  cases h with
  | starting host state up phone down coming =>
    have hdeaf : ¬(s.host.state = .read ∨ s.host.state = .rach) := by simp [state]
    rw [levelsOf_passing (down msg hmem)]
    obtain ⟨heard', cell, sig, hrecv, hsig⟩ := down msg hmem
    rw [Catcher.recv_one hrecv]
    by_cases hreset : sig = .reset
    · subst hreset
      exact .starts host
    · exact Catcher.waits_reacts (Catcher.aside_waits hdeaf hsig fun h => absurd h hreset)
  | asked host on up front_side phone down => exact passing_reacts (down msg hmem) on.deaf host env
  | measuring host on up phone range filled_lt down =>
    exact levels_reacts (down msg hmem) on.deaf host env
  | @measured band levels front back host on up phone down front_passing levels_lt back_passing =>
    rw [hs] at down
    cases front with
    | nil =>
      rw [List.nil_append, List.cons.injEq] at down
      obtain ⟨rfl, -⟩ := down
      rw [Catcher.recv_done levels_lt, levelsOf_pmConf true levels_lt]
      exact .measured host on
    | cons first front =>
      rw [List.cons_append, List.cons.injEq] at down
      obtain ⟨rfl, -⟩ := down
      exact levels_reacts (front_passing msg List.mem_cons_self) on.deaf host env
  | searching host on up job_eq phone down => exact passing_reacts (down msg hmem) on.deaf host env
  | @searched arfcn conf front back host on up phone down front_passing answer =>
    rw [hs] at down
    cases front with
    | nil =>
      rw [List.nil_append, List.cons.injEq] at down
      obtain ⟨rfl, -⟩ := down
      rw [levelsOf_tuneAnswer answer]
      cases answer with
      | found snr bsic conf there behind =>
        rw [Catcher.recv_one conf]
        exact .found bsic host on
      | missed conf behind =>
        rw [Catcher.recv_one conf]
        exact .missed host on
    | cons first front =>
      rw [List.cons_append, List.cons.injEq] at down
      obtain ⟨rfl, -⟩ := down
      exact passing_reacts (front_passing msg List.mem_cons_self) on.deaf host env
  | attached attached arfcn record up phone cell down =>
    rw [levelsOf_passing (down msg hmem).passing]
    obtain ⟨sig, hrecv, hsig⟩ := down msg hmem
    rw [Catcher.recv_one hrecv]
    exact .aside attached record hsig

/-- What a step of the system lets out of the scanner is what one of its reactions does. -/
theorem step_reacts (h : Stage cfg heard s) (e : ScanEvent) :
    (∃ env taken r, Catcher.Reacts cfg env heard s.host taken r ∧
        ((scanSystem cfg).step s e).1.host = r.1 ∧
        ((scanSystem cfg).step s e).2 = r.2.map .scanner) ∨
      ((scanSystem cfg).step s e).1.host = s.host ∧
        ∀ o, .scanner o ∉ ((scanSystem cfg).step s e).2 := by
  cases e with
  | recv env =>
    cases hs : s.down with
    | nil =>
      have hstep : (scanSystem cfg).step s (.recv env) = (s, []) := by
        change s.step cfg (.recv env) = _
        rw [ScanSystem.step, hs]
      rw [hstep]
      exact Or.inr ⟨rfl, fun _ => List.not_mem_nil⟩
    | cons msg rest =>
      have hstep : (scanSystem cfg).step s (.recv env) =
          { s with down := rest }.answer (s.host.layer23Step cfg (.recv msg, env)) := by
        change s.step cfg (.recv env) = _
        rw [ScanSystem.step, hs]
      rw [hstep]
      exact Or.inl ⟨env, _, _, h.recv_reacts hs env, rfl, rfl⟩
  | timer env => exact Or.inl ⟨env, _, _, h.timer_reacts env, rfl, rfl⟩
  | handler =>
    refine Or.inr ?_
    change (s.step cfg .handler).1.host = s.host ∧ ∀ o, .scanner o ∉ (s.step cfg .handler).2
    unfold ScanSystem.step
    dsimp only
    split <;> exact ⟨rfl, fun _ => List.not_mem_nil⟩
  | phone e =>
    refine Or.inr ⟨rfl, ?_⟩
    intro o ho
    obtain ⟨r, -, hr⟩ := List.mem_map.1 ho
    cases hr

end Stage

/-! ### Records -/

namespace Catcher
variable {cfg : CatcherConfig} {env : Surroundings} {heard : List Radio} {c : Catcher}

/-- Where the table is gone through again, no record is printed. -/
theorem startPm_silent (cfg : CatcherConfig) (env : Surroundings) (c : Catcher) :
    reports (startPm cfg (startSync cfg env) c).2 = [] := by
  have hleft : Left c.sysinfo (startPm cfg (startSync cfg env) c) := by
    refine startPm_left rfl ?_
    intro c' _ hs
    exact hs ▸ startSync_left cfg env c'
  exact hleft.silent

theorem Reacts.printed {taken : List (ℕ × UInt8)} {r : Catcher × List CatcherOut}
    (h : Reacts cfg env heard c taken r) :
    ∀ s ∈ reports r.2, s.FromCell heard c.arfcn := by
  cases h with
  | waits hw => exact List.forall_mem_nil _
  | levels => exact List.forall_mem_nil _
  | starts unstarted =>
    have hsilent : reports (step cfg c (.reset, env)).2 = [] := by
      simp only [step]
      split
      · rfl
      · exact startPm_silent cfg env _
    rw [hsilent]
    exact List.forall_mem_nil _
  | measured started on =>
    have hsilent : reports (step cfg (c.takeLevels taken) (.pmDone, env)).2 = [] :=
      startPm_silent cfg env _
    rw [hsilent]
    exact List.forall_mem_nil _
  | found bsic started on => exact List.forall_mem_nil _
  | missed started on =>
    have hsilent : reports (step cfg c (.fbsbErr, env)).2 = [] := (startSync_left cfg env c).silent
    rw [hsilent]
    exact List.forall_mem_nil _
  | aside attached record haside => exact (aside_records record haside).printed
  | timer attached record => exact (step_records record).printed

end Catcher

/-- Every record that the scanner holds of a cell, and every record that it prints, is made of
blocks that the phone has heard on the ARFCN that the scanner is tuned to, whatever the order of the
steps of the two, the delays on the way and the cells heard before. -/
theorem scan_records (cfg : CatcherConfig) (booted : Bool) (es : List ScanEvent) :
    let r := (scanSystem cfg).run (ScanSystem.start booted) es
    (r.1.host.state = .read ∨ r.1.host.state = .rach →
      r.1.host.sysinfo.FromCell (heardIn r.2) r.1.host.arfcn) ∧
    ∀ e s meas, .scanner (.logSysinfo s meas) ∈ ((scanSystem cfg).step r.1 e).2 →
      s.FromCell (heardIn r.2) r.1.host.arfcn := by
  have hstage := Stage.run cfg booted es
  refine ⟨fun hstate => (hstage.attached_of_state hstate).2.2.1, ?_⟩
  intro e s meas hprint
  rcases hstage.step_reacts e with ⟨env, taken, r, hreacts, -, hout⟩ | ⟨-, hnone⟩
  · rw [hout, List.mem_map] at hprint
    obtain ⟨o, ho, heq⟩ := hprint
    obtain rfl : o = .logSysinfo s meas := ScanOut.scanner.inj heq
    exact hreacts.printed s (mem_reports.2 ⟨meas, ho⟩)
  · exact absurd hprint (hnone _)

/-! ### The table of bands -/

namespace Catcher
variable {cfg : CatcherConfig} {env : Surroundings} {heard : List Radio} {c : Catcher}

theorem Reacts.within {taken : List (ℕ × UInt8)} {r : Catcher × List CatcherOut}
    (h : Reacts cfg env heard c taken r)
    (hindex : c.pmIndex ≤ 3) : Within r := by
  cases h with
  | waits hw => exact .stay (hw.pmIndex ▸ hindex)
  | levels => exact .stay ((takeLevels_keeps taken c).2.2.2.1 ▸ hindex)
  | starts unstarted => exact step_within hindex nofun
  | measured started on =>
    have hkept : (c.takeLevels taken).pmIndex = c.pmIndex := (takeLevels_keeps taken c).2.2.2.1
    have hbelow : (c.takeLevels taken).pmIndex < 3 := hkept.symm ▸ on.2.1
    exact pmDone_within (Nat.succ_le_of_lt hbelow)
  | found bsic started on => exact step_within hindex nofun
  | missed started on => exact step_within hindex nofun
  | timer attached record => exact step_within hindex nofun
  | @aside s attached record haside =>
    cases s with
    | ccchModeConf ccchMode => exact .stay hindex
    | reset => exact step_within (e := .reset) hindex nofun
    | phData dl data =>
      rw [rcvSignal_step (aside_fits haside) rfl]
      exact step_within hindex nofun
    | phRach fn msg =>
      rw [rcvSignal_step (aside_fits haside) rfl]
      exact step_within hindex nofun
    | _ => exact haside.elim

end Catcher

/-- Together with the phone, the scanner keeps the index into its table of bands at one of the four
entries, and reads no other. -/
theorem scan_band_range (cfg : CatcherConfig) (booted : Bool) (es : List ScanEvent) :
    let r := (scanSystem cfg).run (ScanSystem.start booted) es
    r.1.host.pmIndex ≤ 3 ∧ ∀ o, .scanner o ∈ r.2 → o.WithinBandRange := by
  refine (Stage.history (J := fun s out => s.host.pmIndex ≤ 3 ∧
    ∀ o, .scanner o ∈ out → o.WithinBandRange) ?_ ?_ booted es).2
  · exact fun _ => ⟨Nat.zero_le 3, fun o ho => absurd ho List.not_mem_nil⟩
  · rintro s out e hstage ⟨hindex, hout⟩
    rcases hstage.step_reacts e with ⟨env, taken, r, hreacts, hhost, heq⟩ | ⟨hhost, hnone⟩
    · obtain ⟨hindex', hreads⟩ := hreacts.within hindex
      rw [hhost, heq]
      refine ⟨hindex', ?_⟩
      intro o ho
      rw [List.mem_append, List.mem_map] at ho
      rcases ho with ho | ⟨o', ho', hsame⟩
      · exact hout o ho
      · obtain rfl : o' = o := ScanOut.scanner.inj hsame
        exact hreads o' ho'
    · rw [hhost]
      refine ⟨hindex, ?_⟩
      intro o ho
      rw [List.mem_append] at ho
      exact ho.elim (hout o) fun ho => absurd ho (hnone o)

end ImsiCatcher

import ImsiCatcher.SysinfoCore

/-!
# Which cells the scanner reports

A record is complete when the RACH state is entered, and its completeness is not tested
again: system information that keeps coming in the RACH state must not announce a message
that was not received. The ARFCN of a record is the one that was tuned to, unless an SI 4
with a CBCH names another.
-/

namespace ImsiCatcher

/-! ### Complete records -/

/-- All that has to be read of a cell before it is reported. -/
def SysinfoCore.FullyRead (k : SysinfoCore) : Prop :=
  k.si1 ∧ k.si2 ∧ k.si3 ∧ k.si4 ∧ (k.nbExtIndSi2 → k.si2bis) ∧ (k.si2terInd → k.si2ter)

instance (k : SysinfoCore) : Decidable k.FullyRead := by
  unfold SysinfoCore.FullyRead
  infer_instance

def announcesSi2bis (msg : Octets) : Bool := messageType msg = 0x1a ∧ bits (octet msg 3) 6 1 = 1

def announcesSi2ter (msg : Octets) : Bool := messageType msg = 0x1b ∧ si2terIndicator msg

namespace Gsm48Sysinfo

theorem complete_iff {s : Gsm48Sysinfo} {k : SysinfoCore} (hk : s.core = k) :
    s.complete = true ↔ k.FullyRead := by
  subst hk
  change s.complete = true ↔ s.si1 ∧ s.si2 ∧ s.si3 ∧ s.si4 ∧ (s.nbExtIndSi2 → s.si2bis) ∧
    (s.si2terInd → s.si2ter)
  simp only [complete, Bool.and_eq_true, Bool.or_eq_true, Bool.not_eq_true', and_assoc]
  cases s.nbExtIndSi2 <;> cases s.si2terInd <;> simp

theorem gsm48DecodeSysinfo4_complete {s : Gsm48Sysinfo} (hs : s.complete) (si : Octets) :
    (s.gsm48DecodeSysinfo4 si).complete := by
  obtain ⟨h1, h2, h3, h4, hext, hind⟩ := (complete_iff rfl).1 hs
  obtain ⟨received, hcore⟩ := gsm48DecodeSysinfo4_core (s := s) rfl si
  refine (complete_iff hcore).2 ⟨h1, h2, h3, ?_, hext, hind⟩
  exact Bool.or_eq_true_iff.2 (Or.inl h4)

/-- A complete record stays complete, unless a message announces one that is not held. -/
theorem bcchDecode_complete {s : Gsm48Sysinfo} {msg : Octets} (hs : s.complete)
    (hbis : announcesSi2bis msg → s.si2bis) (hter : announcesSi2ter msg → s.si2ter) :
    ((s.bcchDecode msg).getD s).complete := by
  obtain ⟨h1, h2, h3, h4, hext, hind⟩ := (complete_iff rfl).1 hs
  apply bcchDecode_cases (motive := fun s' => s'.complete = true)
  case same => exact fun _ => hs
  case si1 =>
    intro _
    obtain ⟨t, hcore, heq⟩ := gsm48DecodeSysinfo1_core (s := s) rfl msg
    have ht : t.complete := (complete_iff hcore).2 ⟨rfl, h2, h3, h4, hext, hind⟩
    have hheld : s.core.si4 = true := h4
    rw [heq, if_pos hheld]
    exact gsm48DecodeSysinfo4_complete ht _
  case si2 =>
    intro ht
    refine (complete_iff (gsm48DecodeSysinfo2_core rfl msg)).2 ⟨h1, rfl, h3, h4, ?_, hind⟩
    intro hbit
    apply hbis
    simp only [announcesSi2bis, ht, true_and]
    exact hbit
  case si3 =>
    intro ht
    refine (complete_iff (gsm48DecodeSysinfo3_core rfl msg)).2 ⟨h1, h2, rfl, h4, hext, ?_⟩
    intro hbit
    by_cases hrest : 4 ≤ (msg.drop 19).length
    · simp only [if_pos hrest] at hbit
      apply hter
      simp only [announcesSi2ter, ht, hbit, and_self, decide_true]
    · simp only [if_neg hrest] at hbit
      exact hind hbit
  case si4 => exact fun _ _ => gsm48DecodeSysinfo4_complete hs msg
  case other =>
    intro s' _ hcore
    rcases hcore s.core rfl with h | h | h
    · exact (complete_iff h).2 ⟨h1, h2, h3, h4, hext, hind⟩
    · exact (complete_iff h).2 ⟨h1, h2, h3, h4, fun _ => rfl, hind⟩
    · exact (complete_iff h).2 ⟨h1, h2, h3, h4, hext, fun _ => rfl⟩

end Gsm48Sysinfo

namespace Catcher

/-- In the RACH state, what an SI 2 or an SI 3 announces is held already. -/
def AnnouncesHeld (c : Catcher) (e : CatcherEvent × Surroundings) : Prop :=
  c.state = .rach → ∀ msg ∈ c.heard e,
    (announcesSi2bis msg → c.sysinfo.si2bis) ∧ (announcesSi2ter msg → c.sysinfo.si2ter)

instance (c : Catcher) (e : CatcherEvent × Surroundings) : Decidable (c.AnnouncesHeld e) := by
  unfold AnnouncesHeld
  infer_instance

theorem takenIn_complete {c : Catcher} {e : CatcherEvent × Surroundings}
    (hc : c.sysinfo.complete) (hstate : c.state = .rach) (he : c.AnnouncesHeld e) :
    (c.takenIn e).complete := by
  obtain ⟨e, env⟩ := e
  cases e with
  | dataInd chan rxLevel fireCrc l3 =>
    unfold takenIn
    cases hheard : c.heard (.dataInd chan rxLevel fireCrc l3, env) with
    | none => exact hc
    | some msg =>
      obtain ⟨hbis, hter⟩ := he hstate msg hheard
      exact Gsm48Sysinfo.bcchDecode_complete hc hbis hter
  | fbsbResp bsic => exact hc
  | _ => exact hc

theorem step_complete (cfg : CatcherConfig) {c : Catcher} {e : CatcherEvent × Surroundings}
    (hc : c.state = .rach → c.sysinfo.complete) (he : c.AnnouncesHeld e) :
    ((step cfg c e).1.state = .rach → (step cfg c e).1.sysinfo.complete) ∧
      ∀ s ∈ reports (step cfg c e).2, s.complete := by
  have hcomplete : c.state = .rach ∨ (c.takenIn e).complete → (c.takenIn e).complete := by
    rintro (h | h)
    · exact takenIn_complete (hc h) h he
    · exact h
  have hstep := step_reported cfg c e
  constructor
  · intro h
    obtain ⟨hfrom, hsys⟩ := hstep.rach h
    rw [hsys]
    exact hcomplete hfrom
  · intro s hs
    obtain ⟨rfl, hfrom⟩ := hstep.of_mem hs
    exact hcomplete hfrom

end Catcher

/-- Every record that is printed was fully read, as long as no message that is received in
the RACH state announces one that is not held. -/
theorem catcher_reports_fullyRead (cfg : CatcherConfig)
    (es : List (CatcherEvent × Surroundings))
    (hes : (catcher cfg).Along Catcher.AnnouncesHeld {} es) {s : Gsm48Sysinfo} {meas : RxMeasStat}
    (hlog : .logSysinfo s meas ∈ ((catcher cfg).run {} es).2) : s.core.FullyRead := by
  have hall := (catcher cfg).outputs_run
    (I := fun c => c.state = .rach → c.sysinfo.complete)
    (Q := fun o => ∀ s ∈ reports [o], s.complete)
    (fun c e hc he => (Catcher.step_complete cfg hc he).1)
    (by
      intro c e hc he o ho s hs
      obtain ⟨meas, hmem⟩ := mem_reports.1 hs
      rw [List.mem_singleton] at hmem
      exact (Catcher.step_complete cfg hc he).2 s (mem_reports.2 ⟨meas, hmem ▸ ho⟩))
    (by intro h; simp at h) hes
  exact (Gsm48Sysinfo.complete_iff rfl).1 (hall _ hlog s (mem_reports.2 ⟨meas, by simp⟩))

def plainSi (type : UInt8) : Octets :=
  [0x49, 0x06, type] ++ List.replicate 16 0 ++ List.replicate 4 0x2b

def bcchFrames (msgs : List Octets) : List (CatcherEvent × Surroundings) :=
  msgs.map fun msg => (.dataInd .bcch 60 0 msg, {})

def syncedRun : List (CatcherEvent × Surroundings) :=
  [.reset, .pmRes 20 60, .pmDone, .pmDone, .pmDone, .fbsbResp 0].map (·, {})

def timerFired : CatcherEvent × Surroundings := (.timer, {})

theorem syncedRun_reports :
    ∃ s meas, .logSysinfo s meas ∈ ((catcher {}).run {} (syncedRun ++
      bcchFrames [plainSi 0x19, plainSi 0x1a, plainSi 0x1b, plainSi 0x1c] ++
      [timerFired, timerFired])).2 := by
  have hreports : reports ((catcher {}).run {} (syncedRun ++
      bcchFrames [plainSi 0x19, plainSi 0x1a, plainSi 0x1b, plainSi 0x1c] ++
      [timerFired, timerFired])).2 ≠ [] := by
    decide +kernel
  obtain ⟨s, hs⟩ := List.exists_mem_of_ne_nil _ hreports
  obtain ⟨meas, hlog⟩ := mem_reports.1 hs
  exact ⟨s, meas, hlog⟩

theorem catcher_reports_fullyRead_plain :
    ∃ s meas, .logSysinfo s meas ∈ ((catcher {}).run {} (syncedRun ++
      bcchFrames [plainSi 0x19, plainSi 0x1a, plainSi 0x1b, plainSi 0x1c] ++
      [timerFired, timerFired])).2 ∧
      s.core.FullyRead := by
  obtain ⟨s, meas, hlog⟩ := syncedRun_reports
  exact ⟨s, meas, hlog, catcher_reports_fullyRead {} _ (by decide +kernel) hlog⟩

/-- In the RACH state an SI 3 announces an SI 2ter that does not come. -/
theorem catcher_reports_unread : ¬ ∀ (cfg : CatcherConfig) (es : List (CatcherEvent × Surroundings))
    (s : Gsm48Sysinfo) (meas : RxMeasStat),
    .logSysinfo s meas ∈ ((catcher cfg).run {} es).2 → s.core.FullyRead := by
  intro h
  have hreports : ∃ s ∈ reports ((catcher {}).run {} (syncedRun ++
      bcchFrames [plainSi 0x19, plainSi 0x1a, plainSi 0x1b, plainSi 0x1c,
        (plainSi 0x1b).set 19 0x0b] ++ [timerFired, timerFired])).2, ¬ s.core.FullyRead := by
    decide +kernel
  obtain ⟨s, hs, hnot⟩ := hreports
  obtain ⟨meas, hlog⟩ := mem_reports.1 hs
  exact hnot (h _ _ s meas hlog)

/-! ### The ARFCN of a record -/

/-- The ARFCN that a message of the BCCH makes the scanner take up. -/
def namedArfcn (msg : Octets) : Option ℕ :=
  if msg.length = 23 ∧ messageType msg = 0x1c then cbchArfcn msg else none

def lastNamed (msgs : List Octets) : Option ℕ := (msgs.filterMap namedArfcn).getLast?

theorem lastNamed_append (msgs msgs' : List Octets) :
    lastNamed (msgs ++ msgs') = (lastNamed msgs').or (lastNamed msgs) := by
  unfold lastNamed
  rw [List.filterMap_append, List.getLast?_append]

theorem lastNamed_singleton (msg : Octets) : lastNamed [msg] = namedArfcn msg := by
  unfold lastNamed
  cases h : namedArfcn msg <;> simp [h]

/-- The SI 4 that is held has had its effect on the ARFCN. -/
structure SysinfoCore.Settled (k : SysinfoCore) : Prop where
  length : k.si4Msg.length = 23
  named : (cbchArfcn k.si4Msg).getD k.arfcn = k.arfcn

namespace Gsm48Sysinfo

theorem gsm48DecodeSysinfo4_settled {s : Gsm48Sysinfo} {k : SysinfoCore} (hk : s.core = k)
    {si : Octets} (hlen : si.length = 23) :
    (s.gsm48DecodeSysinfo4 si).arfcn = (cbchArfcn si).getD k.arfcn ∧
      (s.gsm48DecodeSysinfo4 si).core.Settled := by
  obtain ⟨received, hcore⟩ := gsm48DecodeSysinfo4_core hk si
  have htake : si.take 23 = si := List.take_of_length_le (by omega)
  refine ⟨congrArg SysinfoCore.arfcn hcore, ?_⟩
  rw [hcore, htake]
  refine ⟨hlen, ?_⟩
  cases h : cbchArfcn si with
  | none => simp only [Option.getD_none]
  | some b => simp only [Option.getD_some]

/-- A decoder that writes neither the ARFCN nor the held SI4 keeps both as they were. -/
theorem settled_of_core {s s' : Gsm48Sysinfo} (hs : s.core.Settled) {k : SysinfoCore}
    (hcore : s'.core = k) (harfcn : k.arfcn = s.arfcn) (hmsg : k.si4Msg = s.core.si4Msg) :
    s'.arfcn = s.arfcn ∧ s'.core.Settled := by
  refine ⟨(congrArg SysinfoCore.arfcn hcore).trans harfcn, ?_⟩
  rw [hcore]
  refine ⟨?_, ?_⟩
  · rw [hmsg]
    exact hs.length
  · rw [hmsg, harfcn]
    exact hs.named

theorem bcchDecode_arfcn {s : Gsm48Sysinfo} (hs : s.core.Settled) (msg : Octets) :
    ((s.bcchDecode msg).getD s).arfcn = (namedArfcn msg).getD s.arfcn ∧
      ((s.bcchDecode msg).getD s).core.Settled := by
  have hnone : messageType msg ≠ 0x1c → namedArfcn msg = none := fun h => if_neg fun h' => h h'.2
  apply bcchDecode_cases
    (motive := fun s' => s'.arfcn = (namedArfcn msg).getD s.arfcn ∧ s'.core.Settled)
  case same =>
    intro hsame
    refine ⟨?_, hs⟩
    by_cases hsi4 : msg.length = 23 ∧ messageType msg = 0x1c
    · have hmsg : msg = s.core.si4Msg := hsame hsi4.1 hsi4.2
      rw [namedArfcn, if_pos hsi4, hmsg]
      exact hs.named.symm
    · rw [namedArfcn, if_neg hsi4]
      rfl
  case si1 =>
    intro ht
    obtain ⟨t, hcore, heq⟩ := gsm48DecodeSysinfo1_core (s := s) rfl msg
    rw [heq, hnone (by omega)]
    split
    · obtain ⟨harfcn, hsettled⟩ := gsm48DecodeSysinfo4_settled hcore hs.length
      exact ⟨harfcn.trans hs.named, hsettled⟩
    · exact settled_of_core hs hcore rfl rfl
  case si2 =>
    intro ht
    rw [hnone (by omega)]
    exact settled_of_core hs (gsm48DecodeSysinfo2_core rfl msg) rfl rfl
  case si3 =>
    intro ht
    rw [hnone (by omega)]
    exact settled_of_core hs (gsm48DecodeSysinfo3_core rfl msg) rfl rfl
  case si4 =>
    intro hlen ht
    rw [namedArfcn, if_pos ⟨hlen, ht⟩]
    exact gsm48DecodeSysinfo4_settled rfl hlen
  case other =>
    intro s' ht hcore
    rw [hnone ht]
    rcases hcore s.core rfl with h | h | h
    all_goals exact settled_of_core hs h rfl rfl

/-- The record of a cell that was tuned to as `a` and sent `msgs` since. -/
structure Follows (s : Gsm48Sysinfo) (a : ℕ) (msgs : List Octets) : Prop where
  arfcn : s.arfcn = (lastNamed msgs).getD a
  settled : s.core.Settled

end Gsm48Sysinfo

namespace Catcher

def heardAlong (cfg : CatcherConfig) : Catcher → List (CatcherEvent × Surroundings) → List Octets
  | _, [] => []
  | c, e :: es => (c.heard e).toList ++ heardAlong cfg (step cfg c e).1 es

theorem heardAlong_gathers (cfg : CatcherConfig) :
    Gathers cfg heard (heardAlong cfg) := ⟨fun _ => rfl, fun _ _ _ => rfl⟩

theorem takenIn_follows (a : ℕ) (c : Catcher) (msgs : List Octets)
    (e : CatcherEvent × Surroundings) (hc : c.sysinfo.Follows a msgs) :
    (c.takenIn e).Follows a (msgs ++ (c.heard e).toList) := by
  obtain ⟨e, env⟩ := e
  cases e with
  | dataInd chan rxLevel fireCrc l3 =>
    unfold takenIn
    cases hheard : c.heard (.dataInd chan rxLevel fireCrc l3, env) with
    | none =>
      rw [Option.toList_none, List.append_nil]
      exact hc
    | some msg =>
      obtain ⟨harfcn, hsettled⟩ := Gsm48Sysinfo.bcchDecode_arfcn hc.settled msg
      refine ⟨?_, hsettled⟩
      rw [Option.toList_some, lastNamed_append, lastNamed_singleton]
      cases hname : namedArfcn msg with
      | none => exact harfcn.trans (by rw [hname]; exact hc.arfcn)
      | some b => exact harfcn.trans (by rw [hname]; rfl)
  | fbsbResp bsic =>
    have hnil : (c.heard (.fbsbResp bsic, env)).toList = [] := rfl
    rw [hnil, List.append_nil]
    exact ⟨hc.arfcn, hc.settled.length, hc.settled.named⟩
  | _ =>
    rw [← List.append_nil msgs] at hc
    exact hc

/-- What is printed after a synchronisation follows it. -/
theorem report_follows (cfg : CatcherConfig) (env : Surroundings) {c : Catcher} {a : ℕ}
    (hc : tuned (c.startSync cfg env).2 = some a) {es : List (CatcherEvent × Surroundings)}
    (hes : tuned ((catcher cfg).run (c.startSync cfg env).1 es).2 = none)
    {e : CatcherEvent × Surroundings} {s : Gsm48Sysinfo}
    (hs : s ∈ reports (step cfg ((catcher cfg).run (c.startSync cfg env).1 es).1 e).2) :
    s.Follows a (heardAlong cfg (c.startSync cfg env).1 (es ++ [e])) :=
  (heardAlong_gathers cfg).report (I := fun s msgs => s.Follows a msgs) (takenIn_follows a)
    ⟨rfl, rfl, rfl⟩ env hc hes hs

end Catcher

/-- The block names `a` in its ARFCN line, and leaves out `a` among the neighbours. -/
def FiledUnder (networks : List GsmNetwork) (s : Gsm48Sysinfo) (meas : RxMeasStat) (a : ℕ) : Prop :=
  (sysinfoLines networks s meas)[3]? = some (logLine "ARFCN: " (Text.decimal a)) ∧
    (sysinfoLines networks s meas)[8]? = some (neighboursLine (s.neighboursBeside a))

theorem filedUnder_iff (networks : List GsmNetwork) (s : Gsm48Sysinfo) (meas : RxMeasStat) (a : ℕ) :
    FiledUnder networks s meas a ↔ s.arfcn = a := by
  constructor
  · rintro ⟨h, _⟩
    have hline : logLine "ARFCN: " (Text.decimal s.arfcn) = logLine "ARFCN: " (Text.decimal a) :=
      Option.some.inj h
    have hdec : Text.decimal s.arfcn = Text.decimal a := by simpa [logLine] using hline
    exact Text.decimal_injective hdec
  · rintro rfl
    exact ⟨rfl, rfl⟩

/-- A record that is printed after a synchronisation is filed under the ARFCN that was tuned
to exactly when no SI 4 that was read since, or the last one that names the ARFCN of a CBCH,
says otherwise. -/
theorem startSync_filedUnder_iff (networks : List GsmNetwork) (cfg : CatcherConfig)
    (env : Surroundings) {c : Catcher} {a : ℕ}
    (hc : tuned (c.startSync cfg env).2 = some a) {es : List (CatcherEvent × Surroundings)}
    (hes : tuned ((catcher cfg).run (c.startSync cfg env).1 es).2 = none)
    {e : CatcherEvent × Surroundings} {s : Gsm48Sysinfo} {meas : RxMeasStat}
    (hlog : .logSysinfo s meas ∈
      ((catcher cfg).step ((catcher cfg).run (c.startSync cfg env).1 es).1 e).2) :
    FiledUnder networks s meas a ↔
      ∀ b ∈ lastNamed (Catcher.heardAlong cfg (c.startSync cfg env).1 (es ++ [e])), b = a := by
  have hfollows := Catcher.report_follows cfg env hc hes (mem_reports.2 ⟨meas, hlog⟩)
  rw [filedUnder_iff, hfollows.arfcn]
  cases lastNamed (Catcher.heardAlong cfg (c.startSync cfg env).1 (es ++ [e])) with
  | none => simp
  | some b => simp

/-- A scanner that has measured ARFCN 20. -/
def measuredCatcher : Catcher := Catcher.pmRes {} 20 60

def readRun (si4 : Octets) : List (CatcherEvent × Surroundings) :=
  (.fbsbResp 0, {}) ::
    bcchFrames [plainSi 0x19, plainSi 0x1a, plainSi 0x1b, si4] ++ [timerFired]

theorem startSync_filedUnder_iff_plain : ∃ s meas,
    .logSysinfo s meas ∈ ((catcher {}).step ((catcher {}).run (measuredCatcher.startSync {} {}).1
      (readRun (plainSi 0x1c))).1 timerFired).2 ∧ FiledUnder [] s meas 20 := by
  have hreports : reports ((catcher {}).step ((catcher {}).run
      (measuredCatcher.startSync {} {}).1 (readRun (plainSi 0x1c))).1 timerFired).2 ≠ [] := by
    decide +kernel
  obtain ⟨s, hs⟩ := List.exists_mem_of_ne_nil _ hreports
  obtain ⟨meas, hlog⟩ := mem_reports.1 hs
  refine ⟨s, meas, hlog, ?_⟩
  rw [startSync_filedUnder_iff [] {} {} (c := measuredCatcher) (a := 20) (by decide +kernel)
    (by decide +kernel) hlog]
  decide +kernel

/-- The SI 4 names the CBCH of ARFCN 5. -/
theorem startSync_filedUnder_other : ¬ ∀ (networks : List GsmNetwork) (cfg : CatcherConfig)
    (env : Surroundings) (c : Catcher) (a : ℕ) (es : List (CatcherEvent × Surroundings))
    (e : CatcherEvent × Surroundings) (s : Gsm48Sysinfo) (meas : RxMeasStat),
    tuned (c.startSync cfg env).2 = some a →
    tuned ((catcher cfg).run (c.startSync cfg env).1 es).2 = none →
    .logSysinfo s meas ∈
      ((catcher cfg).step ((catcher cfg).run (c.startSync cfg env).1 es).1 e).2 →
    FiledUnder networks s meas a := by
  intro h
  have hreports : ∃ s ∈ reports ((catcher {}).step ((catcher {}).run
      (measuredCatcher.startSync {} {}).1
      (readRun (((plainSi 0x1c).set 13 0x64).set 16 5))).1 timerFired).2, s.arfcn ≠ 20 := by
    decide +kernel
  obtain ⟨s, hs, hne⟩ := hreports
  obtain ⟨meas, hlog⟩ := mem_reports.1 hs
  have hfiled := h [] {} {} measuredCatcher 20 _ _ s meas (by decide +kernel) (by decide +kernel)
    hlog
  exact hne ((filedUnder_iff _ _ _ _).1 hfiled)

end ImsiCatcher

import ImsiCatcher.CatcherReports
import ImsiCatcher.Handlers

/-!
# The mean reception level

The frames are counted where layer 1 passes them up, and the count is cleared by an answer
to a synchronisation. A record is printed in the RACH state, or while a frame is looked at
in the READ or the RACH state. The RACH state is entered while a frame is looked at, so a
frame has been counted since the last clearing whenever the mean level is computed.
-/

namespace ImsiCatcher

/-- The frames heard since the last synchronisation, if there was one. -/
def framesHeard (es : List (CatcherEvent × Surroundings)) : Option ℕ :=
  es.foldl (fun heard e =>
    match e.1 with
    | .fbsbResp _ => some 0
    | .dataInd .. => heard.map (· + 1)
    | _ => heard) none

theorem framesHeard_append (es : List (CatcherEvent × Surroundings))
    (e : CatcherEvent × Surroundings) : framesHeard (es ++ [e]) =
      match e.1 with
      | .fbsbResp _ => some 0
      | .dataInd .. => (framesHeard es).map (· + 1)
      | _ => framesHeard es := by
  unfold framesHeard
  rw [List.foldl_append]
  rfl

theorem framesHeard_le (es : List (CatcherEvent × Surroundings)) {frames : ℕ}
    (h : framesHeard es = some frames) : frames ≤ es.length := by
  induction es using List.reverseRecOn generalizing frames with
  | nil => exact absurd h (Option.some_ne_none _).symm
  | append_singleton es e ih =>
    obtain ⟨e, env⟩ := e
    rw [framesHeard_append] at h
    rw [List.length_append, List.length_singleton]
    cases e with
    | fbsbResp bsic =>
      obtain rfl : 0 = frames := Option.some.inj h
      exact Nat.zero_le _
    | dataInd chan rxLevel fireCrc l3 =>
      obtain ⟨before, hbefore, rfl⟩ := Option.map_eq_some_iff.1 h
      exact Nat.succ_le_succ (ih hbefore)
    | _ => exact Nat.le_succ_of_le (ih h)

namespace Catcher

/-- The count is kept, a record is printed with it, and only where `ready` holds is a record
printed or the RACH state reached. -/
structure Metered (meas : RxMeasStat) (state : ScanState) (ready : Prop)
    (r : Catcher × List CatcherOut) : Prop where
  kept : r.1.meas = meas
  read : r.1.state = .read → state = .read
  rach : r.1.state = .rach → ready
  logged : ∀ s m, .logSysinfo s m ∈ r.2 → ready ∧ m = meas

variable {cfg : CatcherConfig} {env : Surroundings} {c : Catcher} {meas : RxMeasStat}
  {state : ScanState} {ready : Prop}

theorem Metered.stay (hmeas : c.meas = meas) (hread : c.state = .read → state = .read)
    (hrach : c.state = .rach → ready) : Metered meas state ready (c, []) :=
  ⟨hmeas, hread, hrach, fun _ _ hlog => absurd hlog List.not_mem_nil⟩

theorem Metered.prepend {r : Catcher × List CatcherOut} (h : Metered meas state ready r)
    {out : List CatcherOut} (hout : ∀ s m, .logSysinfo s m ∈ out → ready ∧ m = meas) :
    Metered meas state ready (r.1, out ++ r.2) := by
  refine ⟨h.kept, h.read, h.rach, fun s m hlog => ?_⟩
  rcases List.mem_append.1 hlog with hlog | hlog
  · exact hout s m hlog
  · exact h.logged s m hlog

theorem startPm_metered {sync : Catcher → Catcher × List CatcherOut} (hmeas : c.meas = meas)
    (hsync : ∀ c' : Catcher, c'.meas = meas → c'.state = .pm → Metered meas state ready (sync c')) :
    Metered meas state ready (startPm cfg sync c) := by
  unfold startPm
  dsimp only
  split
  · have hnext : Metered meas state ready (sync { c with state := .pm }) := hsync _ hmeas rfl
    exact hnext.prepend (by simp)
  · exact ⟨hmeas, nofun, nofun, by simp⟩

theorem startSync_metered (hmeas : c.meas = meas) :
    Metered meas state ready (c.startSync cfg env) := by
  unfold startSync
  dsimp only
  split
  · refine startPm_metered hmeas fun c' hmeas' hstate => Metered.stay hmeas' ?_ ?_
    · exact fun hread => absurd (hstate.symm.trans hread) (by decide)
    · exact fun hrach => absurd (hstate.symm.trans hrach) (by decide)
  · exact ⟨hmeas, nofun, nofun, by simp⟩

/-- A handler prints with the count that it finds. -/
theorem Handled.metered {r : Catcher × List CatcherOut} (h : Handled cfg env c ready r) :
    Metered c.meas c.state ready r := by
  cases h with
  | stay kept read rach said =>
    exact ⟨kept.meas, read, rach, fun s m hlog => absurd (said _ hlog).1 id⟩
  | sync kept said =>
    exact (startSync_metered kept.meas).prepend fun s m hlog => said _ hlog

/-- After the events, the count is that of the frames heard, and the RACH state comes after at
least one of them. -/
structure FramesCounted (es : List (CatcherEvent × Surroundings)) (c : Catcher) : Prop where
  frames : ∀ n, framesHeard es = some n → c.meas.frames = UInt32.ofNat n
  read : c.state = .read → ∃ n, framesHeard es = some n
  rach : c.state = .rach → ∃ n, framesHeard es = some n ∧ 0 < n

def LoggedHeard (es : List (CatcherEvent × Surroundings)) (out : List CatcherOut) : Prop :=
  ∀ s m, .logSysinfo s m ∈ out →
    ∃ n, framesHeard es = some n ∧ 0 < n ∧ m.frames = UInt32.ofNat n

variable {es : List (CatcherEvent × Surroundings)}

/-- Where no frame is heard and no synchronisation is answered. -/
theorem FramesCounted.unheard (h : FramesCounted es c) {r : Catcher × List CatcherOut}
    (hr : Metered c.meas c.state (c.state = .rach) r) :
    FramesCounted es r.1 ∧ LoggedHeard es r.2 := by
  refine ⟨⟨fun n hn => ?_, fun hread => h.read (hr.read hread),
    fun hrach => h.rach (hr.rach hrach)⟩, fun s m hlog => ?_⟩
  · rw [hr.kept]
    exact h.frames n hn
  · obtain ⟨hrach, rfl⟩ := hr.logged s m hlog
    obtain ⟨n, hn, hpos⟩ := h.rach hrach
    exact ⟨n, hn, hpos, h.frames n hn⟩

theorem FramesCounted.dataInd (h : FramesCounted es c) (chan : Chan) (rxLevel : UInt8)
    (fireCrc : ℕ) (l3 : Octets) :
    let e : CatcherEvent × Surroundings := (.dataInd chan rxLevel fireCrc l3, env)
    FramesCounted (es ++ [e]) (step cfg c e).1 ∧ LoggedHeard (es ++ [e]) (step cfg c e).2 := by
  intro e
  have hheard : framesHeard (es ++ [e]) = (framesHeard es).map (· + 1) := framesHeard_append es e
  let meas : RxMeasStat :=
    { frames := c.meas.frames + 1, rxlev := c.meas.rxlev + rxLevel.toUInt32 }
  have hmetered : Metered meas c.state (c.state = .read ∨ c.state = .rach) (step cfg c e) := by
    exact (rxPhDataInd_handled chan rxLevel fireCrc l3).metered
  have hcount : ∀ n, framesHeard (es ++ [e]) = some n → meas.frames = UInt32.ofNat n := by
    intro n hn
    rw [hheard, Option.map_eq_some_iff] at hn
    obtain ⟨before, hbefore, rfl⟩ := hn
    change c.meas.frames + 1 = _
    rw [h.frames before hbefore, UInt32.ofNat_add]
    rfl
  have hready : c.state = .read ∨ c.state = .rach →
      ∃ n, framesHeard (es ++ [e]) = some n ∧ 0 < n := by
    intro hstate
    obtain ⟨before, hbefore⟩ : ∃ before, framesHeard es = some before :=
      hstate.elim h.read fun hrach => (h.rach hrach).imp fun _ => And.left
    exact ⟨before + 1, by rw [hheard, hbefore]; rfl, before.succ_pos⟩
  refine ⟨⟨fun n hn => ?_, fun hread => ?_, fun hrach => hready (hmetered.rach hrach)⟩,
    fun s m hlog => ?_⟩
  · rw [hmetered.kept]
    exact hcount n hn
  · exact (hready (Or.inl (hmetered.read hread))).imp fun _ => And.left
  · obtain ⟨hstate, rfl⟩ := hmetered.logged s m hlog
    obtain ⟨n, hn, hpos⟩ := hready hstate
    exact ⟨n, hn, hpos, hcount n hn⟩

theorem framesCounted_init : FramesCounted [] {} where
  frames := fun _ hn => absurd hn (Option.some_ne_none _).symm
  read := fun hread => absurd hread (by decide)
  rach := fun hrach => absurd hrach (by decide)

theorem FramesCounted.step (h : FramesCounted es c) (e : CatcherEvent × Surroundings) :
    FramesCounted (es ++ [e]) (step cfg c e).1 ∧ LoggedHeard (es ++ [e]) (step cfg c e).2 := by
  obtain ⟨e, env⟩ := e
  have hunheard : framesHeard (es ++ [(e, env)]) = framesHeard es →
      Metered c.meas c.state (c.state = .rach) (Catcher.step cfg c (e, env)) →
      FramesCounted (es ++ [(e, env)]) (Catcher.step cfg c (e, env)).1 ∧
        LoggedHeard (es ++ [(e, env)]) (Catcher.step cfg c (e, env)).2 := by
    intro heq hr
    have hnext := h.unheard hr
    unfold LoggedHeard
    refine ⟨⟨?_, ?_, ?_⟩, ?_⟩ <;> rw [heq]
    exacts [hnext.1.frames, hnext.1.read, hnext.1.rach, hnext.2]
  have hsync : ∀ c' : Catcher, c'.meas = c.meas → c'.state = .pm →
      Metered c.meas c.state (c.state = .rach) (startSync cfg env c') :=
    fun _ hmeas _ => startSync_metered hmeas
  cases e with
  | dataInd chan rxLevel fireCrc l3 => exact h.dataInd chan rxLevel fireCrc l3
  | fbsbResp bsic =>
    have hheard : framesHeard (es ++ [(.fbsbResp bsic, env)]) = some 0 := framesHeard_append es _
    refine ⟨⟨fun n hn => ?_, fun _ => ⟨0, hheard⟩, nofun⟩,
      fun _ _ hlog => absurd hlog List.not_mem_nil⟩
    obtain rfl : 0 = n := Option.some.inj (hheard.symm.trans hn)
    rfl
  | pmRes bandArfcn rxLev =>
    exact hunheard (framesHeard_append es _) (Metered.stay rfl id id)
  | pmDone =>
    exact hunheard (framesHeard_append es _) (startPm_metered rfl hsync)
  | fbsbErr => exact hunheard (framesHeard_append es _) (startSync_metered rfl)
  | reset =>
    refine hunheard (framesHeard_append es _) ?_
    simp only [Catcher.step]
    split
    · exact Metered.stay rfl id id
    · exact startPm_metered rfl hsync
  | timer =>
    refine hunheard (framesHeard_append es _) ?_
    simp only [Catcher.step]
    split
    · exact timeoutCb_handled.metered (c := c.stopTimer)
    · exact Metered.stay rfl id id
  | chanConf data =>
    refine hunheard (framesHeard_append es _) ?_
    simp only [Catcher.step, chanConf]
    split <;> exact Metered.stay rfl id id

end Catcher

/-- The mean level is computed from at least one frame, in every order of events that hears
fewer frames in a synchronisation than the counter holds. -/
theorem catcher_frames_pos (cfg : CatcherConfig) (es : List (CatcherEvent × Surroundings))
    (hframes : ∀ n frames, framesHeard (es.take n) = some frames → frames < UInt32.size)
    (s : Gsm48Sysinfo) (meas : RxMeasStat)
    (hlog : .logSysinfo s meas ∈ ((catcher cfg).run {} es).2) : 1 ≤ meas.frames.toNat := by
  obtain ⟨before, e, hfront, hstep⟩ := (catcher cfg).exists_step_of_mem_run hlog
  have hcounted : Catcher.FramesCounted before ((catcher cfg).run {} before).1 :=
    (catcher cfg).trace_run (J := Catcher.FramesCounted) (fun _ _ e h => (h.step e).1)
      Catcher.framesCounted_init before
  obtain ⟨n, hn, hpos, hcount⟩ := (hcounted.step e).2 s meas hstep
  have hbound : n < UInt32.size := by
    rw [List.prefix_iff_eq_take.1 hfront] at hn
    exact hframes _ n hn
  rw [hcount, UInt32.toNat_ofNat_of_lt' hbound]
  exact hpos

theorem catcher_frames_pos_plain :
    ∃ s meas, .logSysinfo s meas ∈ ((catcher {}).run {} (syncedRun ++
      bcchFrames [plainSi 0x19, plainSi 0x1a, plainSi 0x1b, plainSi 0x1c] ++
      [timerFired, timerFired])).2 ∧ 1 ≤ meas.frames.toNat := by
  obtain ⟨s, meas, hlog⟩ := syncedRun_reports
  refine ⟨s, meas, hlog, catcher_frames_pos {} _ (fun n frames hheard => ?_) s meas hlog⟩
  have hle : frames ≤ 12 := (framesHeard_le _ hheard).trans (List.length_take_le' n _)
  exact hle.trans_lt (by decide)

end ImsiCatcher

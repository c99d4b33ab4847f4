import ImsiCatcher.CatcherReports
import ImsiCatcher.NeighbourLine

/-!
# Cells whose SI 2 announces an SI 2bis

`new_sysinfo` waits for an SI 2bis where the decoder of SI 2 has found one announced. The
decoder looks for the announcement in the bit beside the extension indication: a cell is
waited for where its SI 2 sets that bit, and a cell that sets the extension indication alone
is reported without the second half of its list.
-/

namespace ImsiCatcher

/-- EXT-IND, in the first octet of the frequency list of an SI 2. -/
def extInd (si2 : Octets) : Bool := bits (octet si2 3) 5 1 = 1

/-- The bit that the decoder of SI 2 takes for it. -/
def bandFormatBit (si2 : Octets) : Bool := bits (octet si2 3) 6 1 = 1

def latestLists (msgs : List Octets) (i : ℕ) : Bool :=
  (lastOf 0x1a msgs).any (listed 0xce · i) || (lastOf 0x02 msgs).any (listed 0xce · i) ||
    (lastOf 0x03 msgs).any (listed 0x8e · i)

namespace Gsm48Sysinfo

def neighboursAmong (s : Gsm48Sysinfo) (p : ℕ → Bool) : List ℕ :=
  ((List.range 1024).filter fun i => p i && decide (s.neighbourArfcn s.arfcn i ≠ s.arfcn)).map
    fun i => s.neighbourArfcn s.arfcn i &&& 1023

theorem printedNeighbours_eq_among (s : Gsm48Sysinfo) :
    s.printedNeighbours = s.neighboursAmong (s.marked freqTypeNcell) := by
  unfold printedNeighbours neighboursBeside neighboursAmong
  simp only [Bool.decide_and]
  rfl

end Gsm48Sysinfo

/-- A report that was made once an SI 2bis was decoded, and whose neighbours are those of the
latest lists, whenever they came. -/
structure ReportsExtended (s : Gsm48Sysinfo) (msgs : List Octets) : Prop where
  decoded : (lastOf 0x02 msgs).isSome
  neighbours : s.printedNeighbours = s.neighboursAmong (latestLists msgs)

/-- Whatever else is received in whatever order, a cell that sends these SI 2 is not reported
before its SI 2bis. -/
def WaitsForSi2bis (cell : Octets → Prop) : Prop :=
  ∀ (cfg : CatcherConfig) (env : Surroundings) (c : Catcher) (a : ℕ)
    (es : List (CatcherEvent × Surroundings)) (e : CatcherEvent × Surroundings)
    (s : Gsm48Sysinfo) (meas : RxMeasStat),
    tuned (c.startSync cfg env).2 = some a →
    tuned ((catcher cfg).run (c.startSync cfg env).1 es).2 = none →
    (∀ msg ∈ Catcher.acceptedAlong cfg (c.startSync cfg env).1 (es ++ [e]),
      messageType msg = 0x1a → cell msg) →
    .logSysinfo s meas ∈
      ((catcher cfg).step ((catcher cfg).run (c.startSync cfg env).1 es).1 e).2 →
    ReportsExtended s (Catcher.acceptedAlong cfg (c.startSync cfg env).1 (es ++ [e]))

namespace NeighbourPart

theorem hear_announced {k : NeighbourPart} (hk : k.si2 → k.nbExtIndSi2) {msg : Octets}
    (hmsg : messageType msg = 0x1a → bandFormatBit msg) :
    (k.hear msg).si2 → (k.hear msg).nbExtIndSi2 := by
  unfold hear
  by_cases ht : messageType msg = 0x1a
  · rw [if_pos ht]
    exact fun _ => hmsg ht
  · rw [if_neg ht]
    split
    · exact hk
    · split <;> exact hk

theorem hear_si2bis {k : NeighbourPart} (hk : k.si2bis) (msg : Octets) : (k.hear msg).si2bis := by
  unfold hear
  repeat' split
  all_goals first | exact hk | rfl

end NeighbourPart

namespace Catcher

/-- An SI 2 that was decoded has announced an SI 2bis, and one is held in the RACH state. -/
structure Awaits (c : Catcher) : Prop where
  announced : c.sysinfo.si2 → c.sysinfo.nbExtIndSi2
  held : c.state = .rach → c.sysinfo.si2bis

theorem takenIn_neighbourPart (c : Catcher) (e : CatcherEvent × Surroundings) :
    (c.takenIn e).neighbourPart =
      (c.accepted e).elim c.sysinfo.neighbourPart c.sysinfo.neighbourPart.hear := by
  rcases c.takenIn_cases e with ⟨bsic, htaken, hacc⟩ | ⟨msg, s, hs, htaken, hacc⟩ | ⟨htaken, hacc⟩
  · rw [htaken, hacc]
    rfl
  · rw [htaken, hacc]
    exact Gsm48Sysinfo.bcchDecode_neighbourPart hs
  · rw [htaken, hacc]
    rfl

theorem takenIn_announced {c : Catcher} {e : CatcherEvent × Surroundings}
    (hc : c.sysinfo.si2 → c.sysinfo.nbExtIndSi2)
    (he : ∀ msg ∈ c.accepted e, messageType msg = 0x1a → bandFormatBit msg) :
    (c.takenIn e).si2 → (c.takenIn e).nbExtIndSi2 := by
  change (c.takenIn e).neighbourPart.si2 → (c.takenIn e).neighbourPart.nbExtIndSi2
  rw [takenIn_neighbourPart]
  cases hacc : c.accepted e with
  | none => exact hc
  | some msg => exact NeighbourPart.hear_announced hc (he msg hacc)

theorem takenIn_si2bis {c : Catcher} {e : CatcherEvent × Surroundings} (hc : c.sysinfo.si2bis) :
    (c.takenIn e).si2bis := by
  change (c.takenIn e).neighbourPart.si2bis
  rw [takenIn_neighbourPart]
  cases c.accepted e with
  | none => exact hc
  | some msg => exact NeighbourPart.hear_si2bis hc msg

/-- A record that is reported, or makes the scanner enter the RACH state, holds an SI 2bis. -/
theorem Awaits.taken {c : Catcher} (hc : c.Awaits) {e : CatcherEvent × Surroundings}
    (he : ∀ msg ∈ c.accepted e, messageType msg = 0x1a → bandFormatBit msg)
    (hfrom : c.state = .rach ∨ (c.takenIn e).complete) : (c.takenIn e).si2bis := by
  rcases hfrom with hrach | hcomplete
  · exact takenIn_si2bis (hc.held hrach)
  · obtain ⟨_, h2, _, _, hext, _⟩ := (Gsm48Sysinfo.complete_iff rfl).1 hcomplete
    exact hext (takenIn_announced hc.announced he h2)

theorem Awaits.step (cfg : CatcherConfig) {c : Catcher} (hc : c.Awaits)
    {e : CatcherEvent × Surroundings} (htuned : tuned (Catcher.step cfg c e).2 = none)
    (he : ∀ msg ∈ c.accepted e, messageType msg = 0x1a → bandFormatBit msg) :
    (Catcher.step cfg c e).1.Awaits := by
  obtain ⟨hsys, _, hrach⟩ := step_reported cfg c e
  rw [htuned, Option.elim_none] at hsys
  refine ⟨?_, ?_⟩
  · rw [hsys]
    exact takenIn_announced hc.announced he
  · intro h
    rw [hsys]
    exact hc.taken he (hrach h).1

theorem Awaits.run (cfg : CatcherConfig) {c : Catcher} (hc : c.Awaits)
    {es : List (CatcherEvent × Surroundings)}
    (htuned : tuned ((catcher cfg).run c es).2 = none)
    (hes : ∀ msg ∈ acceptedAlong cfg c es, messageType msg = 0x1a → bandFormatBit msg) :
    ((catcher cfg).run c es).1.Awaits := by
  induction es generalizing c with
  | nil => exact hc
  | cons e es ih =>
    rw [Machine.run_cons, tuned_append, Option.or_eq_none_iff] at htuned
    have hnow : ∀ msg ∈ c.accepted e, messageType msg = 0x1a → bandFormatBit msg := by
      intro msg hmsg
      exact hes msg (List.mem_append_left _ (Option.mem_toList.2 hmsg))
    refine ih (hc.step cfg htuned.1 hnow) htuned.2 ?_
    intro msg hmsg
    exact hes msg (List.mem_append_right _ hmsg)

end Catcher

theorem marked_freqTypeNcell_of_heard {s : Gsm48Sysinfo} {msgs : List Octets}
    (h : s.neighbourPart = .heard msgs) : s.marked freqTypeNcell = latestLists msgs := by
  rw [NeighbourPart.heard_eq] at h
  have h2 : s.marked freqTypeNcell2 = _ := congrArg NeighbourPart.marked2 h
  have hbis : s.marked freqTypeNcell2bis = _ := congrArg NeighbourPart.marked2bis h
  have hter : s.marked freqTypeNcell2ter = _ := congrArg NeighbourPart.marked2ter h
  funext i
  rw [Gsm48Sysinfo.marked_freqTypeNcell, h2, hbis, hter]
  rfl

theorem waitsForSi2bis_of_bandFormatBit {cell : Octets → Prop}
    (hcell : ∀ m, cell m → bandFormatBit m) : WaitsForSi2bis cell := by
  intro cfg env c a es e s meas hc hes hsi2 hlog
  have hs := mem_reports.2 ⟨meas, hlog⟩
  have hheard := Catcher.report_neighbours cfg env hc hes hs
  refine ⟨?_, ?_⟩
  · have hbits : ∀ msg ∈ Catcher.acceptedAlong cfg (c.startSync cfg env).1 (es ++ [e]),
        messageType msg = 0x1a → bandFormatBit msg :=
      fun msg hmsg ht => hcell msg (hsi2 msg hmsg ht)
    rw [(Catcher.acceptedAlong_gathers cfg).append] at hbits
    have hstart : (c.startSync cfg env).1.Awaits := by
      obtain ⟨hstate, hsys, _⟩ := Catcher.startSync_left cfg env c
      rw [hc] at hsys
      refine ⟨?_, fun h => absurd h hstate⟩
      rw [hsys]
      exact id
    have hrun := hstart.run cfg hes fun msg hmsg => hbits msg (List.mem_append_left _ hmsg)
    have hlast : s.si2bis = true := by
      obtain ⟨rfl, hfrom⟩ := (Catcher.step_reported cfg _ e).of_mem hs
      refine hrun.taken ?_ hfrom
      intro msg hmsg
      refine hbits msg (List.mem_append_right _ ?_)
      rw [Catcher.acceptedAlong]
      exact List.mem_append_left _ (Option.mem_toList.2 hmsg)
    rw [NeighbourPart.heard_eq] at hheard
    exact (congrArg NeighbourPart.si2bis hheard).symm.trans hlast
  · rw [Gsm48Sysinfo.printedNeighbours_eq_among, marked_freqTypeNcell_of_heard hheard]

/-! ### Cells that are not waited for -/

/-- Where no channel is requested, a message that completes the record is reported at once. -/
theorem Catcher.mem_reports_of_complete {cfg : CatcherConfig} (hmax : cfg.rachMax = 0)
    (env : Surroundings) (rxLevel : UInt8) {c : Catcher} (hstate : c.state = .read) {msg : Octets}
    {s : Gsm48Sysinfo} (hdecode : c.sysinfo.bcchDecode msg = some s) (hcomplete : s.complete) :
    s ∈ reports (Catcher.step cfg c (.dataInd .bcch rxLevel 0 msg, env)).2 := by
  have hread : ¬(c.state ≠ .read ∧ c.state ≠ .rach) := fun h => h.1 hstate
  have hcount : ((0 : ℕ) : ℤ) = cfg.rachMax := hmax.symm
  simp only [Catcher.step, rxPhDataInd, unitDataInd, bcch, newSysinfo, startRach, hdecode,
    if_neg hread, if_pos hcomplete, if_pos hcount]
  rw [if_neg (by omega), reports_append]
  exact List.mem_append_right _ List.mem_cons_self

/-- All of a plain cell that has no SI 2 yet. -/
def readButSi2 : List (CatcherEvent × Surroundings) :=
  (.fbsbResp 0, {}) :: bcchFrames [plainSi 0x19, plainSi 0x1b, plainSi 0x1c]

structure LacksSi2 (c : Catcher) : Prop where
  state : c.state = .read
  si1 : c.sysinfo.si1
  si3 : c.sysinfo.si3
  si4 : c.sysinfo.si4
  si2terInd : c.sysinfo.si2terInd = false
  held : messageType c.sysinfo.si2Msg ≠ 0x1a

theorem LacksSi2.decodes {c : Catcher} (hc : LacksSi2 c) {m : Octets} (hlen : m.length = 23)
    (ht : messageType m = 0x1a) (hbit : bandFormatBit m = false) :
    c.sysinfo.bcchDecode m = some (c.sysinfo.gsm48DecodeSysinfo2 m) ∧
      (c.sysinfo.gsm48DecodeSysinfo2 m).complete := by
  constructor
  · unfold Gsm48Sysinfo.bcchDecode
    rw [if_neg (not_not.2 hlen), ht]
    refine if_neg ?_
    rintro rfl
    exact hc.held ht
  · refine (Gsm48Sysinfo.complete_iff (Gsm48Sysinfo.gsm48DecodeSysinfo2_core rfl m)).2
      ⟨hc.si1, rfl, hc.si3, hc.si4, ?_, ?_⟩
    · intro hext
      exact absurd (hbit.symm.trans hext) Bool.false_ne_true
    · intro hter
      exact absurd (hc.si2terInd.symm.trans hter) Bool.false_ne_true

theorem lacksSi2_readButSi2 : LacksSi2 ((catcher { rachMax := 0 }).run
    (measuredCatcher.startSync { rachMax := 0 } {}).1 readButSi2).1 := by
  constructor <;> decide +kernel

theorem acceptedAlong_readButSi2 : Catcher.acceptedAlong { rachMax := 0 }
    (measuredCatcher.startSync { rachMax := 0 } {}).1 readButSi2 =
      [plainSi 0x19, plainSi 0x1b, plainSi 0x1c] := by
  decide +kernel

theorem not_waitsForSi2bis {cell : Octets → Prop} {m : Octets} (hm : cell m)
    (hlen : m.length = 23) (ht : messageType m = 0x1a) (hbit : bandFormatBit m = false) :
    ¬ WaitsForSi2bis cell := by
  intro hwaits
  have hwaits := hwaits { rachMax := 0 } {} measuredCatcher 20 readButSi2
    (.dataInd .bcch 60 0 m, {})
  rw [(Catcher.acceptedAlong_gathers _).append, acceptedAlong_readButSi2] at hwaits
  have hlacks := lacksSi2_readButSi2
  generalize ((catcher { rachMax := 0 }).run
    (measuredCatcher.startSync { rachMax := 0 } {}).1 readButSi2).1 = d at hwaits hlacks
  obtain ⟨hdecode, hcomplete⟩ := hlacks.decodes hlen ht hbit
  have hmax : ({ rachMax := 0 } : CatcherConfig).rachMax = 0 := rfl
  obtain ⟨meas, hlog⟩ := mem_reports.1
    (Catcher.mem_reports_of_complete hmax {} 60 hlacks.state hdecode hcomplete)
  have hlast : Catcher.acceptedAlong { rachMax := 0 } d [(.dataInd .bcch 60 0 m, {})] = [m] := by
    simp [Catcher.acceptedAlong, Catcher.accepted, Catcher.heard, hlacks.state, hdecode,
      Option.filter]
  rw [hlast] at hwaits
  have hdecoded := (hwaits _ meas (by decide +kernel) (by decide +kernel) ?_ hlog).decoded
  · rw [lastOf_concat, if_neg (by omega)] at hdecoded
    exact absurd hdecoded (by decide)
  · intro msg hmsg htype
    rcases List.mem_append.1 hmsg with hmsg | hmsg
    · have hother : ∀ msg ∈ [plainSi 0x19, plainSi 0x1b, plainSi 0x1c],
          messageType msg ≠ 0x1a := by
        decide
      exact absurd htype (hother msg hmsg)
    · rw [List.mem_singleton.1 hmsg]
      exact hm

/-- A cell whose SI 2 have the extension indication is waited for, in every run, exactly when
they have the bit beside it as well. -/
theorem waitsForSi2bis_iff (cell : Octets → Prop)
    (hcell : ∀ m, cell m → m.length = 23 ∧ messageType m = 0x1a ∧ extInd m) :
    WaitsForSi2bis cell ↔ ∀ m, cell m → bandFormatBit m := by
  constructor
  · intro hwaits m hm
    by_contra hbit
    obtain ⟨hlen, ht, _⟩ := hcell m hm
    exact not_waitsForSi2bis hm hlen ht (by simpa using hbit) hwaits
  · exact waitsForSi2bis_of_bandFormatBit

theorem waitsForSi2bis_iff_both : WaitsForSi2bis (· = (plainSi 0x1a).set 3 0x60) :=
  (waitsForSi2bis_iff (· = (plainSi 0x1a).set 3 0x60) (by rintro _ rfl; decide)).2
    (by rintro _ rfl; decide)

/-- An SI 2 with the extension indication alone. -/
theorem not_waitsForSi2bis_extInd : ¬ ∀ cell : Octets → Prop,
    (∀ m, cell m → m.length = 23 ∧ messageType m = 0x1a ∧ extInd m) → WaitsForSi2bis cell := by
  intro h
  have hwaits : WaitsForSi2bis (· = (plainSi 0x1a).set 3 0x20) := by
    refine h _ ?_
    rintro _ rfl
    decide
  refine not_waitsForSi2bis (m := (plainSi 0x1a).set 3 0x20) ?_ (by decide) (by decide) (by decide)
    hwaits
  rfl

end ImsiCatcher

import ImsiCatcher.Sercomm

/-!
# Frames on the serial line

What the receiver makes of a whole frame. Where it waits for a start, it takes the frame and
dispatches its message. Where it is anywhere else, as after noise on the line, it takes at most
two frames until it waits for a start again, and may dispatch a wrong message for each of them.
-/

namespace ImsiCatcher

/-- A message on the line: its octets are stuffed and flags stand around it. -/
def hdlcFrame (dlci : UInt8) (msg : Octets) : Octets :=
  hdlcFlag :: hdlc.stuff (dlci :: hdlcCUi :: msg) ++ [hdlcFlag]

/-- The DLCI has a queue and is not changed by the stuffing, and the message leaves a place free
in the buffer of the receiver. -/
structure Sendable (cfg : SercommConfig) (dlci : UInt8) (msg : Octets) : Prop where
  lt : dlci.toNat < scDlciMax
  unmarked : hdlc.marked dlci = false
  fits : msg.length < cfg.rxMsgSize

theorem ctrl_unmarked : hdlc.marked hdlcCUi = false := by decide

theorem hdlcFrame_eq {cfg : SercommConfig} {dlci : UInt8} {msg : Octets}
    (h : Sendable cfg dlci msg) :
    hdlcFrame dlci msg = hdlcFlag :: dlci :: hdlcCUi :: (hdlc.stuff msg ++ [hdlcFlag]) := by
  rw [hdlcFrame, hdlc.stuff_unmarked h.unmarked, hdlc.stuff_unmarked ctrl_unmarked]
  rfl

namespace SercommRx
variable {cfg : SercommConfig} {r : SercommRx} {buf : Octets} {ch dlci ctrl : UInt8}

/-- Outside a message the buffer is empty. -/
structure Tidy (r : SercommRx) : Prop where
  outside : r.state = .waitStart ∨ r.state = .addr ∨ r.state = .ctrl → r.msg.getD [] = []

/-- The receiver waits for the start of a frame. -/
structure Idle (r : SercommRx) : Prop where
  state : r.state = .waitStart
  msg : r.msg.getD [] = []

theorem Idle.tidy (h : r.Idle) : r.Tidy := ⟨fun _ => h.msg⟩

theorem idle_init : ({} : SercommRx).Idle := ⟨rfl, rfl⟩

theorem rxChar_store (hroom : buf.length < cfg.rxMsgSize) (hch : hdlc.marked ch = false) :
    sercommDrvRxChar cfg ⟨some buf, .data, dlci, ctrl⟩ ch =
      (⟨some (buf ++ [ch]), .data, dlci, ctrl⟩, []) := by
  have hesc : ch ≠ hdlcEscape := hdlc.ne_escape_of_unmarked hch
  have hflag : ch ≠ hdlcFlag := hdlc.ne_flag_of_unmarked hch
  simp [sercommDrvRxChar, Nat.ne_of_lt hroom, hesc, hflag]

theorem rxChar_escape (hroom : buf.length < cfg.rxMsgSize) :
    sercommDrvRxChar cfg ⟨some buf, .data, dlci, ctrl⟩ hdlcEscape =
      (⟨some buf, .escape, dlci, ctrl⟩, []) := by
  simp [sercommDrvRxChar, Nat.ne_of_lt hroom]

theorem rxChar_escaped (hroom : buf.length < cfg.rxMsgSize) :
    sercommDrvRxChar cfg ⟨some buf, .escape, dlci, ctrl⟩ ch =
      (⟨some (buf ++ [hdlc.change ch]), .data, dlci, ctrl⟩, []) := by
  simp [sercommDrvRxChar, Nat.ne_of_lt hroom, hdlc]

/-- The octets of a message reach the buffer as they were before the stuffing. -/
theorem run_stuff (chars : Octets) (hroom : buf.length + chars.length ≤ cfg.rxMsgSize) :
    (sercommRx cfg).run ⟨some buf, .data, dlci, ctrl⟩ (hdlc.stuff chars) =
      (⟨some (buf ++ chars), .data, dlci, ctrl⟩, []) := by
  induction chars generalizing buf with
  | nil => simp
  | cons ch chars ih =>
    rw [List.length_cons] at hroom
    have hfree : buf.length < cfg.rxMsgSize := by omega
    have hrest : (buf ++ [ch]).length + chars.length ≤ cfg.rxMsgSize := by
      rw [List.length_append, List.length_singleton]
      omega
    have hstored := ih hrest
    rw [List.append_assoc] at hstored
    cases hch : hdlc.marked ch with
    | true =>
      have hchar : sercommDrvRxChar cfg ⟨some buf, .escape, dlci, ctrl⟩ (hdlc.change ch) =
          (⟨some (buf ++ [ch]), .data, dlci, ctrl⟩, []) := by
        rw [rxChar_escaped hfree, hdlc.change_change]
      rw [hdlc.stuff_marked hch, Machine.run_cons, Machine.run_cons]
      simp only [sercommRx_step, show hdlc.escape = hdlcEscape from rfl, rxChar_escape hfree,
        hchar, hstored, List.nil_append, List.singleton_append]
    | false =>
      rw [hdlc.stuff_unmarked hch, Machine.run_cons]
      simp only [sercommRx_step, rxChar_store hfree hch, hstored, List.nil_append,
        List.singleton_append]

theorem rxChar_start (hr : r.Idle) (hsize : 0 < cfg.rxMsgSize) :
    sercommDrvRxChar cfg r hdlcFlag = (⟨some [], .addr, r.dlci, r.ctrl⟩, []) := by
  simp [sercommDrvRxChar, hr.msg, hr.state, Nat.ne_of_lt hsize]

theorem rxChar_addr (hroom : buf.length < cfg.rxMsgSize) :
    sercommDrvRxChar cfg ⟨some buf, .addr, dlci, ctrl⟩ ch =
      (⟨some buf, .ctrl, ch, ctrl⟩, []) := by
  simp [sercommDrvRxChar, Nat.ne_of_lt hroom]

theorem rxChar_ctrl (hroom : buf.length < cfg.rxMsgSize) :
    sercommDrvRxChar cfg ⟨some buf, .ctrl, dlci, ctrl⟩ ch =
      (⟨some buf, .data, dlci, ch⟩, []) := by
  simp [sercommDrvRxChar, Nat.ne_of_lt hroom]

theorem rxChar_end (hroom : buf.length < cfg.rxMsgSize) :
    sercommDrvRxChar cfg ⟨some buf, .data, dlci, ctrl⟩ hdlcFlag =
      (⟨none, .waitStart, dlci, ctrl⟩, dispatchRxMsg cfg dlci buf) := by
  have hflag : hdlcFlag ≠ hdlcEscape := by decide
  simp [sercommDrvRxChar, Nat.ne_of_lt hroom, hflag]

/-- A receiver that waits for a start takes a frame and dispatches its message. -/
theorem run_frame (hr : r.Idle) {msg : Octets} (h : Sendable cfg dlci msg) :
    (sercommRx cfg).run r (hdlcFrame dlci msg) =
      (⟨none, .waitStart, dlci, hdlcCUi⟩, dispatchRxMsg cfg dlci msg) := by
  have hfits := h.fits
  have hsize : 0 < cfg.rxMsgSize := by omega
  have hempty : ([] : Octets).length < cfg.rxMsgSize := hsize
  have hroom : ([] : Octets).length + msg.length ≤ cfg.rxMsgSize := by
    rw [List.length_nil]
    omega
  rw [hdlcFrame_eq h]
  simp only [Machine.run_cons, Machine.run_append, Machine.run_nil, sercommRx_step,
    rxChar_start hr hsize, rxChar_addr hempty, rxChar_ctrl hempty, run_stuff msg hroom,
    List.nil_append, List.append_nil, rxChar_end h.fits]

/-! ### Noise -/

theorem idle_run (hsize : 0 < cfg.rxMsgSize) (hr : r.Idle) {chars : Octets}
    (hchars : ∀ ch ∈ chars, ch ≠ hdlcFlag) :
    ((sercommRx cfg).run r chars).1.Idle ∧ ((sercommRx cfg).run r chars).2 = [] := by
  induction chars generalizing r with
  | nil => exact ⟨hr, rfl⟩
  | cons ch chars ih =>
    rw [List.forall_mem_cons] at hchars
    have hstep : sercommDrvRxChar cfg r ch = ({ r with msg := some [] }, []) := by
      simp [sercommDrvRxChar, hr.msg, hr.state, Nat.ne_of_lt hsize, hchars.1]
    have hidle : ({ r with msg := some [] } : SercommRx).Idle := ⟨hr.state, rfl⟩
    rw [Machine.run_cons, sercommRx_step, hstep]
    exact ⟨(ih hidle hchars.2).1, (ih hidle hchars.2).2⟩

theorem rxChar_full (hfull : (r.msg.getD []).length = cfg.rxMsgSize) (ch : UInt8) :
    (sercommDrvRxChar cfg r ch).1.Idle ∧ (sercommDrvRxChar cfg r ch).2 = [] := by
  have hstep : sercommDrvRxChar cfg r ch =
      ({ r with msg := some [], state := .waitStart }, []) := by
    simp [sercommDrvRxChar, hfull]
  rw [hstep]
  exact ⟨⟨rfl, rfl⟩, rfl⟩

/-- Stuffed octets end in the data state, or the buffer ran over and the receiver waits. -/
theorem data_run (hsize : 0 < cfg.rxMsgSize) (hr : r.state = .data) (chars : Octets) :
    (((sercommRx cfg).run r (hdlc.stuff chars)).1.state = .data ∨
      ((sercommRx cfg).run r (hdlc.stuff chars)).1.Idle) ∧
    ((sercommRx cfg).run r (hdlc.stuff chars)).2 = [] := by
  induction chars generalizing r with
  | nil => exact ⟨Or.inl hr, rfl⟩
  | cons ch chars ih =>
    have hflagless : ∀ c ∈ hdlc.stuff (ch :: chars), c ≠ hdlcFlag :=
      fun _ hc => hdlc.ne_flag_of_mem_stuff hc
    by_cases hfull : (r.msg.getD []).length = cfg.rxMsgSize
    · cases hstuff : hdlc.stuff (ch :: chars) with
      | nil => exact ⟨Or.inl hr, rfl⟩
      | cons c rest =>
        rw [hstuff, List.forall_mem_cons] at hflagless
        obtain ⟨hidle, hquiet⟩ := rxChar_full hfull c
        obtain ⟨hrun, hout⟩ := idle_run hsize hidle hflagless.2
        rw [Machine.run_cons, sercommRx_step, hquiet]
        exact ⟨Or.inr hrun, hout⟩
    · cases hch : hdlc.marked ch with
      | true =>
        have hesc : sercommDrvRxChar cfg r hdlcEscape =
            ({ r with msg := some (r.msg.getD []), state := .escape }, []) := by
          simp [sercommDrvRxChar, hfull, hr]
        have hchar : sercommDrvRxChar cfg
            { r with msg := some (r.msg.getD []), state := .escape } (hdlc.change ch) =
            ({ r with msg := some (r.msg.getD [] ++ [hdlc.change ch ^^^ 0x20]), state := .data },
              []) := by
          simp [sercommDrvRxChar, hfull]
        rw [hdlc.stuff_marked hch, Machine.run_cons, Machine.run_cons]
        simp only [sercommRx_step, show hdlc.escape = hdlcEscape from rfl, hesc, hchar,
          List.nil_append]
        exact ih rfl
      | false =>
        have hstep : sercommDrvRxChar cfg r ch =
            ({ r with msg := some (r.msg.getD [] ++ [ch]) }, []) := by
          have hne : ch ≠ hdlcEscape := hdlc.ne_escape_of_unmarked hch
          have hflag : ch ≠ hdlcFlag := hdlc.ne_flag_of_unmarked hch
          simp [sercommDrvRxChar, hfull, hr, hne, hflag]
        rw [hdlc.stuff_unmarked hch, Machine.run_cons, sercommRx_step, hstep]
        exact ih hr

theorem dispatchRxMsg_length (cfg : SercommConfig) (dlci : UInt8) (msg : Octets) :
    (dispatchRxMsg cfg dlci msg).length ≤ 1 := by
  unfold dispatchRxMsg
  split <;> simp

theorem data_flag (cfg : SercommConfig) (hr : r.state = .data) :
    (sercommDrvRxChar cfg r hdlcFlag).1.Idle ∧ (sercommDrvRxChar cfg r hdlcFlag).2.length ≤ 1 := by
  by_cases hfull : (r.msg.getD []).length = cfg.rxMsgSize
  · obtain ⟨hidle, hquiet⟩ := rxChar_full hfull hdlcFlag
    exact ⟨hidle, by simp [hquiet]⟩
  · have hflag : hdlcFlag ≠ hdlcEscape := by decide
    have hstep : sercommDrvRxChar cfg r hdlcFlag =
        ({ r with msg := none, state := .waitStart },
          dispatchRxMsg cfg r.dlci (r.msg.getD [])) := by
      simp [sercommDrvRxChar, hfull, hr, hflag]
    rw [hstep]
    exact ⟨⟨rfl, rfl⟩, dispatchRxMsg_length _ _ _⟩

theorem tidy_step (hr : r.Tidy) (ch : UInt8) : (sercommDrvRxChar cfg r ch).1.Tidy := by
  by_cases hfull : (r.msg.getD []).length = cfg.rxMsgSize
  · exact (rxChar_full hfull ch).1.tidy
  · cases hstate : r.state with
    | waitStart =>
      have hempty := hr.outside (Or.inl hstate)
      rw [hempty, List.length_nil] at hfull
      by_cases hch : ch = hdlcFlag <;>
        exact ⟨by simp [sercommDrvRxChar, hfull, hstate, hch, hempty]⟩
    | addr =>
      have hempty := hr.outside (Or.inr (Or.inl hstate))
      rw [hempty, List.length_nil] at hfull
      exact ⟨by simp [sercommDrvRxChar, hfull, hstate, hempty]⟩
    | ctrl => exact ⟨by simp [sercommDrvRxChar, hfull, hstate]⟩
    | data =>
      by_cases hesc : ch = hdlcEscape
      · exact ⟨by simp [sercommDrvRxChar, hfull, hstate, hesc]⟩
      · by_cases hch : ch = hdlcFlag
        · rw [hch]
          exact (data_flag cfg hstate).1.tidy
        · exact ⟨by simp [sercommDrvRxChar, hfull, hstate, hesc, hch]⟩
    | escape => exact ⟨by simp [sercommDrvRxChar, hfull, hstate]⟩

/-- Stuffed octets and the flag behind them, read as data. -/
theorem data_run_flag (hsize : 0 < cfg.rxMsgSize) (hr : r.state = .data) (chars : Octets) :
    let q := (sercommRx cfg).run r (hdlc.stuff chars ++ [hdlcFlag])
    q.1.Tidy ∧ (q.1.state = .waitStart ∨ q.1.state = .addr) ∧ q.2.length ≤ 1 := by
  obtain ⟨hbody, hquiet⟩ := data_run hsize hr chars
  rw [Machine.run_append, hquiet]
  rcases hbody with hdata | hidle
  · obtain ⟨hidle, hlength⟩ := data_flag cfg hdata
    exact ⟨hidle.tidy, Or.inl hidle.state, by simpa using hlength⟩
  · have hstart := rxChar_start hidle hsize
    simp only [Machine.run_cons, Machine.run_nil, sercommRx_step, hstart]
    exact ⟨⟨fun _ => rfl⟩, by simp, by simp⟩

/-- The rest of a frame whose start was not seen: its last flag is taken for a start. -/
theorem idle_run_flag (hsize : 0 < cfg.rxMsgSize) (hr : r.Idle) (chars : Octets) :
    let q := (sercommRx cfg).run r (hdlc.stuff chars ++ [hdlcFlag])
    q.1.Tidy ∧ q.1.state = .addr ∧ q.2 = [] := by
  have hflagless : ∀ c ∈ hdlc.stuff chars, c ≠ hdlcFlag :=
    fun _ hc => hdlc.ne_flag_of_mem_stuff hc
  obtain ⟨hidle, hquiet⟩ := idle_run hsize hr hflagless
  rw [Machine.run_append, hquiet]
  simp only [Machine.run_cons, Machine.run_nil, sercommRx_step, rxChar_start hidle hsize]
  exact ⟨⟨fun _ => rfl⟩, by simp, by simp⟩

theorem tidy_eq_some (hr : r.Tidy) (hstate : r.state = .addr ∨ r.state = .ctrl) :
    sercommDrvRxChar cfg r ch = sercommDrvRxChar cfg ⟨some [], r.state, r.dlci, r.ctrl⟩ ch := by
  have hempty := hr.outside (Or.inr hstate)
  simp [sercommDrvRxChar, hempty]

/-- A frame that follows noise. Where its start was not awaited, one wrong message is handed out
at most, and the start of the next frame is awaited or taken for an address. -/
theorem frame_after_noise (hr : r.Tidy) {msg : Octets} (h : Sendable cfg dlci msg) :
    let q := (sercommRx cfg).run r (hdlcFrame dlci msg)
    q.1.Tidy ∧ (q.1.state = .waitStart ∨ q.1.state = .addr) ∧
      (r.state ≠ .waitStart → q.2.length ≤ 1) ∧ (r.state = .addr → q.1.state = .waitStart) := by
  have hfits := h.fits
  have hsize : 0 < cfg.rxMsgSize := by omega
  have hempty : ([] : Octets).length < cfg.rxMsgSize := hsize
  have hframe : hdlcFrame dlci msg =
      hdlcFlag :: (hdlc.stuff (dlci :: hdlcCUi :: msg) ++ [hdlcFlag]) := rfl
  have hskip : ∀ {s : SercommRx}, s.Idle → _ := fun hs =>
    idle_run_flag hsize hs (dlci :: hdlcCUi :: msg)
  have hread : ∀ {s : SercommRx}, s.state = .data → _ := fun hs =>
    data_run_flag hsize hs (dlci :: hdlcCUi :: msg)
  cases hstate : r.state with
  | waitStart =>
    have hidle : r.Idle := ⟨hstate, hr.outside (Or.inl hstate)⟩
    rw [run_frame hidle h]
    exact ⟨⟨fun _ => rfl⟩, Or.inl rfl, fun hne => absurd rfl hne, nofun⟩
  | addr =>
    have hroom : ([] : Octets).length + (hdlcCUi :: msg).length ≤ cfg.rxMsgSize := by
      rw [List.length_nil, List.length_cons]
      omega
    have hstuff : hdlcCUi :: (hdlc.stuff msg ++ [hdlcFlag]) =
        hdlc.stuff (hdlcCUi :: msg) ++ [hdlcFlag] := by
      rw [hdlc.stuff_unmarked ctrl_unmarked]
      rfl
    obtain ⟨hidle, hlength⟩ := data_flag cfg
      (r := ⟨some ([] ++ hdlcCUi :: msg), .data, hdlcFlag, dlci⟩) rfl
    rw [hdlcFrame_eq h, Machine.run_cons, sercommRx_step, tidy_eq_some hr (Or.inl hstate), hstate,
      rxChar_addr hempty, Machine.run_cons, sercommRx_step, rxChar_ctrl hempty, hstuff,
      Machine.run_append, run_stuff _ hroom]
    exact ⟨hidle.tidy, Or.inl hidle.state, fun _ => by simpa using hlength, fun _ => hidle.state⟩
  | ctrl =>
    obtain ⟨htidy, hends, hlength⟩ := hread (s := ⟨some [], .data, r.dlci, hdlcFlag⟩) rfl
    rw [hframe, Machine.run_cons, sercommRx_step, tidy_eq_some hr (Or.inr hstate), hstate,
      rxChar_ctrl hempty]
    exact ⟨htidy, hends, fun _ => by simpa using hlength, nofun⟩
  | data =>
    obtain ⟨hidle, hlength⟩ := data_flag cfg hstate
    obtain ⟨htidy, haddr, hquiet⟩ := hskip hidle
    rw [hframe, Machine.run_cons, sercommRx_step]
    exact ⟨htidy, Or.inr haddr, fun _ => by simpa [hquiet] using hlength, nofun⟩
  | escape =>
    rw [hframe, Machine.run_cons, sercommRx_step]
    by_cases hfull : (r.msg.getD []).length = cfg.rxMsgSize
    · obtain ⟨hidle, hquiet⟩ := rxChar_full hfull hdlcFlag
      obtain ⟨htidy, haddr, hrest⟩ := hskip hidle
      exact ⟨htidy, Or.inr haddr, fun _ => by simp [hquiet, hrest], nofun⟩
    · have hstep : (sercommDrvRxChar cfg r hdlcFlag).1.state = .data ∧
          (sercommDrvRxChar cfg r hdlcFlag).2 = [] := by
        simp [sercommDrvRxChar, hfull, hstate]
      obtain ⟨htidy, hends, hlength⟩ := hread hstep.1
      exact ⟨htidy, hends, fun _ => by simpa [hstep.2] using hlength, nofun⟩

def frames (fs : List (UInt8 × Octets)) : Octets := fs.flatMap fun f => hdlcFrame f.1 f.2

theorem run_frames (hr : r.Idle) {fs : List (UInt8 × Octets)}
    (hfs : ∀ f ∈ fs, Sendable cfg f.1 f.2) :
    ((sercommRx cfg).run r (frames fs)).1.Idle ∧
      ((sercommRx cfg).run r (frames fs)).2 = fs.flatMap fun f => dispatchRxMsg cfg f.1 f.2 := by
  induction fs generalizing r with
  | nil => exact ⟨hr, rfl⟩
  | cons f fs ih =>
    rw [List.forall_mem_cons] at hfs
    have hidle : (⟨none, .waitStart, f.1, hdlcCUi⟩ : SercommRx).Idle := ⟨rfl, rfl⟩
    obtain ⟨hrest, hout⟩ := ih hidle hfs.2
    rw [frames, List.flatMap_cons, Machine.run_append, run_frame hr hfs.1, List.flatMap_cons]
    exact ⟨hrest, congrArg _ hout⟩

/-- Of the frames `fs` the first `lost` are not dispatched; at most as many wrong messages are. -/
def Loses (cfg : SercommConfig) (r : SercommRx) (fs : List (UInt8 × Octets)) (lost : ℕ) : Prop :=
  ∃ wrong, wrong.length ≤ lost ∧ ((sercommRx cfg).run r (frames fs)).2 =
    wrong ++ (fs.drop lost).flatMap fun f => dispatchRxMsg cfg f.1 f.2

theorem loses_cons {f : UInt8 × Octets} {fs : List (UInt8 × Octets)} {lost : ℕ}
    (hwrong : ((sercommRx cfg).run r (hdlcFrame f.1 f.2)).2.length ≤ 1)
    (hrest : Loses cfg ((sercommRx cfg).run r (hdlcFrame f.1 f.2)).1 fs lost) :
    Loses cfg r (f :: fs) (lost + 1) := by
  obtain ⟨wrong, hlength, hout⟩ := hrest
  refine ⟨((sercommRx cfg).run r (hdlcFrame f.1 f.2)).2 ++ wrong, ?_, ?_⟩
  · rw [List.length_append]
    omega
  · have hframes : frames (f :: fs) = hdlcFrame f.1 f.2 ++ frames fs := rfl
    rw [hframes, Machine.run_append, hout, List.append_assoc, List.drop_succ_cons]

theorem loses_idle (hr : r.Idle) {fs : List (UInt8 × Octets)}
    (hfs : ∀ f ∈ fs, Sendable cfg f.1 f.2) : Loses cfg r fs 0 :=
  ⟨[], Nat.le_refl 0, (run_frames hr hfs).2⟩

theorem loses_addr (hr : r.Tidy) (haddr : r.state = .addr) {fs : List (UInt8 × Octets)}
    (hfs : ∀ f ∈ fs, Sendable cfg f.1 f.2) : ∃ lost ≤ 1, Loses cfg r fs lost := by
  cases fs with
  | nil => exact ⟨0, Nat.zero_le 1, [], Nat.le_refl 0, rfl⟩
  | cons f fs =>
    rw [List.forall_mem_cons] at hfs
    obtain ⟨htidy, -, hwrong, hwaits⟩ := frame_after_noise hr hfs.1
    have hwait := hwaits haddr
    have hne : r.state ≠ .waitStart := by rw [haddr]; exact nofun
    have hidle := loses_idle ⟨hwait, htidy.outside (Or.inl hwait)⟩ hfs.2
    exact ⟨1, Nat.le_refl 1, loses_cons (hwrong hne) hidle⟩

/-- From any state at most two frames are lost. -/
theorem loses_tidy (hr : r.Tidy) {fs : List (UInt8 × Octets)}
    (hfs : ∀ f ∈ fs, Sendable cfg f.1 f.2) : ∃ lost ≤ 2, Loses cfg r fs lost := by
  by_cases hwait : r.state = .waitStart
  · exact ⟨0, Nat.zero_le 2, loses_idle ⟨hwait, hr.outside (Or.inl hwait)⟩ hfs⟩
  cases fs with
  | nil => exact ⟨0, Nat.zero_le 2, [], Nat.le_refl 0, rfl⟩
  | cons f fs =>
    rw [List.forall_mem_cons] at hfs
    obtain ⟨htidy, hends, hwrong, -⟩ := frame_after_noise hr hfs.1
    rcases hends with hends | hends
    · have hidle := loses_idle ⟨hends, htidy.outside (Or.inl hends)⟩ hfs.2
      exact ⟨1, Nat.le_succ 1, loses_cons (hwrong hwait) hidle⟩
    · obtain ⟨lost, hlost, hrest⟩ := loses_addr htidy hends hfs.2
      exact ⟨lost + 1, Nat.succ_le_succ hlost, loses_cons (hwrong hwait) hrest⟩

end SercommRx

/-- The receiver finds the frames again after any noise on the line: of the frames behind the
noise the first two at most are lost, with one wrong message at most for each, and all that follow
are dispatched. -/
theorem sercomm_resynchronises (cfg : SercommConfig) (noise : Octets)
    (fs : List (UInt8 × Octets)) (hfs : ∀ f ∈ fs, Sendable cfg f.1 f.2) :
    ∃ lost ≤ 2, ∃ wrong, wrong.length ≤ lost ∧
      ((sercommRx cfg).run {} (noise ++ SercommRx.frames fs)).2 =
        ((sercommRx cfg).run {} noise).2 ++ wrong ++
          (fs.drop lost).flatMap fun f => dispatchRxMsg cfg f.1 f.2 := by
  have htidy : ((sercommRx cfg).run {} noise).1.Tidy :=
    (sercommRx cfg).always_run (I := SercommRx.Tidy) (fun _ ch hr => SercommRx.tidy_step hr ch)
      SercommRx.idle_init.tidy noise
  obtain ⟨lost, hlost, wrong, hwrong, hout⟩ := SercommRx.loses_tidy htidy hfs
  refine ⟨lost, hlost, wrong, hwrong, ?_⟩
  rw [Machine.run_append, hout, List.append_assoc]

/-- A buffer of eight octets, with every DLCI in use. -/
def smallBuffer : SercommConfig := ⟨8, fun _ => true⟩

def threeFrames : List (UInt8 × Octets) := [(5, [1]), (5, [0x7e]), (4, [2, 3])]

theorem sercomm_resynchronises_after_escape :
    ∃ lost ≤ 2, ∃ wrong, wrong.length ≤ lost ∧
      ((sercommRx smallBuffer).run {} ([0x7e, 5, 3, 0x7d] ++ SercommRx.frames threeFrames)).2 =
        ((sercommRx smallBuffer).run {} [0x7e, 5, 3, 0x7d]).2 ++ wrong ++
          (threeFrames.drop lost).flatMap fun f => dispatchRxMsg smallBuffer f.1 f.2 := by
  refine sercomm_resynchronises smallBuffer _ threeFrames ?_
  simp only [threeFrames, List.forall_mem_cons]
  exact ⟨⟨by decide, by decide, by decide⟩, ⟨by decide, by decide, by decide⟩,
    ⟨by decide, by decide, by decide⟩, nofun⟩

end ImsiCatcher

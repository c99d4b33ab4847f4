import ImsiCatcher.Errands

/-!
# The scanner and the phone

The two programs with a queue in each direction, which is what the serial line and the socket
between them amount to. The scanner takes a message of the phone or finds its timer expired, the
main loop of the phone takes a request, and the phone goes on by itself, in any order. What comes
in over the radio is recorded beside what the scanner lets out.

In every state that is reached there is one errand at most, and it is at one place: on its way
to the phone, with the phone, or answered and on its way back. In a cell there is none, and all
that is on its way there and back belongs to this cell.
-/

namespace ImsiCatcher

structure ScanSystem where
  host : Catcher := {}
  up : List Octets := [l1ctlTxResetReq l1ctlResTFull]
  down : List Octets := []
  phone : Phone := {}

inductive ScanEvent where
  | recv (env : Surroundings)
  | timer (env : Surroundings)
  | handler
  | phone (e : PhoneEvent)

inductive ScanOut where
  | scanner (o : CatcherOut)
  | radio (r : Radio)

namespace ScanSystem

/-- The program asks for a reset when it starts. Whether the phone has come up before, or does it
before it takes a request, makes no difference to the phone, but there may be a message of it. -/
def start (booted : Bool) : ScanSystem := { down := if booted then [phoneBoot] else [] }

def answer (s : ScanSystem) (r : Catcher × List CatcherOut) : ScanSystem × List ScanOut :=
  ({ s with host := r.1, up := s.up ++ messagesOf r.2 }, r.2.map .scanner)

def step (cfg : CatcherConfig) (s : ScanSystem) : ScanEvent → ScanSystem × List ScanOut
  | .recv env =>
    match s.down with
    | [] => (s, [])
    | msg :: down => { s with down := down }.answer (s.host.layer23Step cfg (.recv msg, env))
  | .timer env => s.answer (s.host.layer23Step cfg (.timer, env))
  | .handler =>
    match s.up with
    | [] => (s, [])
    | msg :: up =>
      let r := s.phone.l1aL23Handler msg
      ({ s with phone := r.1, up := up, down := s.down ++ r.2 }, [])
  | .phone e =>
    let r := s.phone.step e
    ({ s with phone := r.1, down := s.down ++ r.2 }, (s.phone.hears e).map .radio)

end ScanSystem

def scanSystem (cfg : CatcherConfig) : Machine ScanSystem ScanEvent ScanOut :=
  ⟨ScanSystem.step cfg⟩

/-! ### What is on its way to the scanner -/

/-- A message that no errand waits for. -/
def Passing (msg : Octets) : Prop := ∃ heard cell, Aside heard cell msg

def Levels (msg : Octets) : Prop :=
  ∃ levels : List (ℕ × UInt8), (∀ m ∈ levels, m.1 < 65536) ∧ msg = pmConf false levels

theorem Aside.passing {heard : List Radio} {cell : ℕ} {msg : Octets} (h : Aside heard cell msg) :
    Passing msg :=
  ⟨heard, cell, h⟩

inductive TuneAnswer (heard : List Radio) (cell arfcn : ℕ) (msg : Octets)
    (behind : List Octets) : Prop
  | found (snr bsic : UInt8) (conf : l1ctlRecv msg = [.fbsbResp arfcn snr bsic])
      (there : cell = arfcn) (behind : ∀ m ∈ behind, Aside heard arfcn m)
  | missed (conf : l1ctlRecv msg = [.fbsbErr arfcn]) (behind : ∀ m ∈ behind, Passing m)

inductive Stage (cfg : CatcherConfig) (heard : List Radio) (s : ScanSystem) : Prop
  | starting (host : s.host.started = false) (state : s.host.state = .pm)
      (up : ∀ m ∈ s.up, SideRequest m) (phone : s.phone.Does .rest)
      (down : ∀ m ∈ s.down, Passing m)
      (coming : l1ctlTxResetReq l1ctlResTFull ∈ s.up ∨ ∃ m ∈ s.down, l1ctlRecv m = [.reset])
  | asked {errand : Errand} {front : List Octets} (host : s.host.started = true)
      (on : s.host.On cfg errand) (up : s.up = front ++ [errand.message])
      (front_side : ∀ m ∈ front, SideRequest m) (phone : s.phone.Does .rest)
      (down : ∀ m ∈ s.down, Passing m)
  | measuring {band : ℕ × ℕ} {next : ℕ} {filled : List (ℕ × UInt8)}
      (host : s.host.started = true) (on : s.host.On cfg (.measure band)) (up : s.up = [])
      (phone : s.phone.Does (.measure next band.2 filled)) (range : next ≤ band.2)
      (filled_lt : ∀ m ∈ filled, m.1 < 65536) (down : ∀ m ∈ s.down, Passing m ∨ Levels m)
  | measured {band : ℕ × ℕ} {levels : List (ℕ × UInt8)} {front back : List Octets}
      (host : s.host.started = true) (on : s.host.On cfg (.measure band)) (up : s.up = [])
      (phone : s.phone.Does .rest) (down : s.down = front ++ pmConf true levels :: back)
      (front_passing : ∀ m ∈ front, Passing m ∨ Levels m) (levels_lt : ∀ m ∈ levels, m.1 < 65536)
      (back_passing : ∀ m ∈ back, Passing m)
  | searching {arfcn : ℕ} {job : Job} (host : s.host.started = true)
      (on : s.host.On cfg (.tune arfcn)) (up : s.up = [])
      (job_eq : job = .search arfcn ∨ job = .found arfcn ∨ job = .missed arfcn)
      (phone : s.phone.Does job) (down : ∀ m ∈ s.down, Passing m)
  | searched {arfcn : ℕ} {conf : Octets} {front back : List Octets}
      (host : s.host.started = true) (on : s.host.On cfg (.tune arfcn)) (up : s.up = [])
      (phone : s.phone.Does .rest) (down : s.down = front ++ conf :: back)
      (front_passing : ∀ m ∈ front, Passing m)
      (answer : TuneAnswer heard s.phone.servingCell.arfcn arfcn conf back)
  | attached (host : s.host.Attached cfg) (arfcn : s.host.arfcn < 1024)
      (record : s.host.sysinfo.FromCell heard s.host.arfcn)
      (up : ∀ m ∈ s.up, SideRequest m) (phone : s.phone.Does .rest)
      (cell : s.phone.servingCell.arfcn = s.host.arfcn)
      (down : ∀ m ∈ s.down, Aside heard s.host.arfcn m)

namespace Stage
variable {cfg : CatcherConfig} {heard : List Radio} {s : ScanSystem}

theorem start (cfg : CatcherConfig) (booted : Bool) :
    Stage cfg [] (ScanSystem.start booted) := by
  have hup : ∀ m ∈ [l1ctlTxResetReq l1ctlResTFull], SideRequest m :=
    List.forall_mem_singleton.2 .reset
  have hboot : Passing phoneBoot := ⟨[], 0, .reset, l1ctlRecv_reset _ (Or.inl rfl), trivial⟩
  refine .starting rfl rfl hup ⟨rfl, rfl, rfl⟩ ?_ (Or.inl (List.mem_singleton.2 rfl))
  cases booted
  · exact List.forall_mem_nil _
  · exact List.forall_mem_singleton.2 hboot

/-! ### The phone -/

theorem rest_step {p : Phone} {e : PhoneEvent} (h : p.Does .rest) :
    (p.step e).1.Does .rest ∧ (p.step e).1.servingCell.arfcn = p.servingCell.arfcn ∧
      ∀ m ∈ (p.step e).2, Aside (p.hears e) p.servingCell.arfcn m := by
  generalize hr : p.step e = r
  have hproceeds := Phone.step_proceeds h e
  rw [hr] at hproceeds
  cases hproceeds with
  | goesOn does cell level out => exact ⟨does, cell, out⟩

theorem mask_next {n : ℕ} (hn : n < 1023) : (n + 1) &&& 0xfbff = n + 1 := by
  have hall : ∀ k : Fin 1023, (k.val + 1) &&& 0xfbff = k.val + 1 := by decide +kernel
  exact hall ⟨n, hn⟩

theorem band_bounds {c : Catcher} {band : ℕ × ℕ} (h : c.On cfg (.measure band)) :
    band.1 < band.2 ∧ band.2 < 1024 := by
  obtain ⟨-, hindex, rfl⟩ := h
  exact Catcher.scanBands_bounds _ (Catcher.bandRange_mem hindex)

theorem aside_passing {heard : List Radio} {cell : ℕ} {out : List Octets}
    (h : ∀ m ∈ out, Aside heard cell m) : ∀ m ∈ out, Passing m :=
  fun m hm => ⟨heard, cell, h m hm⟩

theorem levels_flushed {flushed : List (ℕ × UInt8)} (h : ∀ m ∈ flushed, m.1 < 65536) :
    ∀ m ∈ if flushed = [] then [] else [pmConf false flushed], Levels m := by
  split
  · exact List.forall_mem_nil _
  · exact List.forall_mem_singleton.2 ⟨flushed, h, rfl⟩

/-- A step of the phone. -/
theorem phone_step (h : Stage cfg heard s) (e : PhoneEvent) :
    Stage cfg (heard ++ s.phone.hears e) (s.step cfg (.phone e)).1 := by
  have hsub : heard ⊆ heard ++ s.phone.hears e := List.subset_append_left _ _
  have hnew : s.phone.hears e ⊆ heard ++ s.phone.hears e := List.subset_append_right _ _
  cases h with
  | starting host state up phone down coming =>
    obtain ⟨does, -, out⟩ := rest_step (e := e) phone
    refine .starting host state up does ?_ ?_
    · exact List.forall_mem_append.2 ⟨down, aside_passing out⟩
    · exact coming.imp_right fun ⟨m, hm, hreset⟩ => ⟨m, List.mem_append_left _ hm, hreset⟩
  | asked host on up front_side phone down =>
    obtain ⟨does, -, out⟩ := rest_step (e := e) phone
    exact .asked host on up front_side does (List.forall_mem_append.2 ⟨down, aside_passing out⟩)
  | @measured band levels front back host on up phone down front_passing levels_lt back_passing =>
    obtain ⟨does, -, out⟩ := rest_step (e := e) phone
    have hdown : s.down ++ (s.phone.step e).2 =
        front ++ pmConf true levels :: (back ++ (s.phone.step e).2) := by
      rw [down, List.append_assoc, List.cons_append]
    exact .measured host on up does hdown front_passing levels_lt
      (List.forall_mem_append.2 ⟨back_passing, aside_passing out⟩)
  | @searched arfcn conf front back host on up phone down front_passing answer =>
    obtain ⟨does, cell, out⟩ := rest_step (e := e) phone
    have hdown : s.down ++ (s.phone.step e).2 = front ++ conf :: (back ++ (s.phone.step e).2) := by
      rw [down, List.append_assoc, List.cons_append]
    refine .searched host on up does hdown front_passing ?_
    cases answer with
    | found snr bsic conf there behind =>
      refine .found snr bsic conf (cell.trans there) (List.forall_mem_append.2 ⟨?_, ?_⟩)
      · exact fun m hm => (behind m hm).mono hsub
      · exact fun m hm => there ▸ (out m hm).mono hnew
    | missed conf behind =>
      exact .missed conf (List.forall_mem_append.2 ⟨behind, aside_passing out⟩)
  | attached host arfcn record up phone cell down =>
    obtain ⟨does, hcell, out⟩ := rest_step (e := e) phone
    refine .attached host arfcn (record.mono hsub) up does (hcell.trans cell)
      (List.forall_mem_append.2 ⟨?_, ?_⟩)
    · exact fun m hm => (down m hm).mono hsub
    · exact fun m hm => cell ▸ (out m hm).mono hnew
  | @measuring band next filled host on up phone range filled_lt down =>
    have hbounds := band_bounds on
    have hsplit : ∀ flushed filled' : List (ℕ × UInt8), ∀ rxlev,
        flushed ++ filled' = filled ++ [(next, rxlev)] →
          (∀ m ∈ flushed, m.1 < 65536) ∧ ∀ m ∈ filled', m.1 < 65536 := by
      intro flushed filled' rxlev hsplit
      have hnext : next < 65536 := by omega
      rw [← List.forall_mem_append, hsplit, List.forall_mem_append, List.forall_mem_singleton]
      exact ⟨filled_lt, hnext⟩
    have hproceeds := Phone.step_proceeds phone e
    unfold ScanSystem.step
    dsimp only
    generalize s.phone.step e = r at hproceeds ⊢
    cases hproceeds with
    | goesOn does cell level out =>
      refine .measuring host on up does range filled_lt ?_
      exact List.forall_mem_append.2 ⟨down, fun m hm => Or.inl (aside_passing out m hm)⟩
    | level more does heard split =>
      obtain ⟨hflushed, hfilled⟩ := hsplit _ _ _ split
      rw [mask_next (by omega)] at does
      refine .measuring host on up does (by omega) hfilled ?_
      exact List.forall_mem_append.2 ⟨down, fun m hm => Or.inr (levels_flushed hflushed m hm)⟩
    | measured does heard split =>
      obtain ⟨hflushed, hfilled⟩ := hsplit _ _ _ split
      refine .measured host on up does (List.append_assoc _ _ _).symm ?_ hfilled
        (List.forall_mem_nil _)
      exact List.forall_mem_append.2 ⟨down, fun m hm => Or.inr (levels_flushed hflushed m hm)⟩
  | @searching arfcn job host on up job_eq phone down =>
    have hwide : arfcn < 65536 := Nat.lt_trans on.2.2.1 (by decide)
    have hproceeds := Phone.step_proceeds phone e
    unfold ScanSystem.step
    dsimp only
    generalize s.phone.step e = r at hproceeds ⊢
    cases hproceeds with
    | goesOn does cell level out =>
      refine .searching host on up job_eq does ?_
      exact List.forall_mem_append.2 ⟨down, aside_passing out⟩
    | search next_eq does heard =>
      obtain rfl : _ = arfcn := by simpa using job_eq
      refine .searching host on up next_eq does ?_
      exact List.forall_mem_append.2 ⟨down, List.forall_mem_nil _⟩
    | found does cell heard conf_eq out_aside =>
      obtain rfl : _ = arfcn := by simpa using job_eq
      obtain ⟨snr, bsic, hconf⟩ := conf_eq hwide
      exact .searched host on up does rfl down
        (.found snr bsic hconf cell fun m hm => (out_aside m hm).mono (List.nil_subset _))
    | missed does heard conf_eq out_aside =>
      obtain rfl : _ = arfcn := by simpa using job_eq
      exact .searched host on up does rfl down
        (.missed (conf_eq hwide) (aside_passing out_aside))
    | level more does heard split => simp at job_eq
    | measured does heard split => simp at job_eq

/-- The main loop takes a request. -/
theorem handler_step (h : Stage cfg heard s) : Stage cfg heard (s.step cfg .handler).1 := by
  unfold ScanSystem.step
  dsimp only
  cases hs : s.up with
  | nil => exact h
  | cons msg up =>
    dsimp only
    cases h with
    | starting host state up_side phone down coming =>
      rw [hs, List.forall_mem_cons] at up_side
      obtain ⟨does, -, out⟩ := Phone.handler_side up_side.1 phone
      refine .starting host state up_side.2 does ?_ ?_
      · exact List.forall_mem_append.2 ⟨down, aside_passing out⟩
      · rw [hs, List.mem_cons] at coming
        rcases coming with (rfl | hlater) | ⟨m, hm, hreset⟩
        · refine Or.inr ⟨l1ctlTxReset l1ctlResetConf l1ctlResTFull, ?_, ?_⟩
          · exact List.mem_append_right _ (List.mem_singleton.2 rfl)
          · exact l1ctlRecv_reset _ (Or.inr rfl)
        · exact Or.inl hlater
        · exact Or.inr ⟨m, List.mem_append_left _ hm, hreset⟩
    | @asked errand front host on up_eq front_side phone down =>
      rw [hs] at up_eq
      cases front with
      | cons first front =>
        rw [List.cons_append, List.cons.injEq] at up_eq
        obtain ⟨rfl, hup⟩ := up_eq
        rw [List.forall_mem_cons] at front_side
        obtain ⟨does, -, out⟩ := Phone.handler_side front_side.1 phone
        exact .asked host on hup front_side.2 does
          (List.forall_mem_append.2 ⟨down, aside_passing out⟩)
      | nil =>
        rw [List.nil_append, List.cons.injEq] at up_eq
        obtain ⟨rfl, hup⟩ := up_eq
        cases errand with
        | measure band =>
          have hbounds := band_bounds on
          have hlower : band.1 < 65536 := by omega
          have hupper : band.2 < 65536 := by omega
          obtain ⟨does, out⟩ := Phone.handler_measure phone hlower hupper
          refine .measuring host on hup does (by omega) (List.forall_mem_nil _) ?_
          change ∀ m ∈ s.down ++ (s.phone.l1aL23Handler (l1ctlTxPmReqRange band.1 band.2)).2, _
          rw [out, List.append_nil]
          exact fun m hm => Or.inl (down m hm)
        | tune arfcn =>
          obtain ⟨does, out⟩ := Phone.handler_search phone
            (Nat.lt_trans on.2.2.1 (by decide)) 100 0 ccchModeNone
          refine .searching host on hup (Or.inl rfl) does ?_
          change ∀ m ∈ s.down ++ (s.phone.l1aL23Handler
            (l1ctlTxFbsbReq arfcn l1ctlFbsbFFb01sb 100 0 ccchModeNone)).2, _
          rw [out, List.append_nil]
          exact down
    | attached host arfcn record up_side phone cell down =>
      rw [hs, List.forall_mem_cons] at up_side
      obtain ⟨does, hcell, out⟩ := Phone.handler_side up_side.1 phone
      refine .attached host arfcn record up_side.2 does (hcell.trans cell) ?_
      have hout : ∀ m ∈ (s.phone.l1aL23Handler msg).2, Aside heard s.host.arfcn m :=
        fun m hm => cell ▸ (out m hm).mono (List.nil_subset _)
      exact List.forall_mem_append.2 ⟨down, hout⟩
    | measuring host on up_nil phone range filled_lt down =>
      exact absurd (hs.symm.trans up_nil) (List.cons_ne_nil _ _)
    | measured host on up_nil phone down front_passing levels_lt back_passing =>
      exact absurd (hs.symm.trans up_nil) (List.cons_ne_nil _ _)
    | searching host on up_nil job_eq phone down =>
      exact absurd (hs.symm.trans up_nil) (List.cons_ne_nil _ _)
    | searched host on up_nil phone down front_passing answer =>
      exact absurd (hs.symm.trans up_nil) (List.cons_ne_nil _ _)

/-! ### The scanner -/

/-- The scanner has gone on an errand, with side requests before the one for it. -/
theorem of_sentOn {host : Catcher} {out side : List CatcherOut} {errand : Errand}
    {up down : List Octets} {phone : Phone}
    (hsent : Catcher.SentOn cfg errand (host, out)) (hside : ∀ o ∈ side, o.InCell)
    (hup : ∀ m ∈ up, SideRequest m) (hphone : phone.Does .rest) (hdown : ∀ m ∈ down, Passing m) :
    Stage cfg heard ⟨host, up ++ messagesOf (side ++ out), down, phone⟩ := by
  have hfront : ∀ m ∈ up ++ messagesOf side ++ [l1ctlTxResetReq l1ctlResTFull],
      SideRequest m :=
    List.forall_mem_append.2 ⟨List.forall_mem_append.2 ⟨hup, side_messagesOf hside⟩,
      List.forall_mem_singleton.2 .reset⟩
  have heq : up ++ messagesOf (side ++ out) =
      up ++ messagesOf side ++ [l1ctlTxResetReq l1ctlResTFull] ++ [errand.message] := by
    rw [messagesOf_append, hsent.asked]
    simp
  exact .asked hsent.started hsent.on heq hfront hphone hdown

/-- What an event in a cell leads to, whatever else is on its way. -/
theorem of_attends {host : Catcher} {r : Catcher × List CatcherOut} {env : Surroundings}
    {up down : List Octets} {phone : Phone} (hr : Catcher.Attends cfg env host r)
    (hstarted : host.started = true) (harfcn : host.arfcn < 1024)
    (hup : ∀ m ∈ up, SideRequest m) (hphone : phone.Does .rest)
    (hcell : phone.servingCell.arfcn = host.arfcn)
    (hrecords : Catcher.Records heard host.arfcn r)
    (hdown : ∀ m ∈ down, Aside heard host.arfcn m) :
    Stage cfg heard ⟨r.1, up ++ messagesOf r.2, down, phone⟩ := by
  cases hr with
  | stay same attached inCell =>
    refine .attached attached (same.arfcn.symm ▸ harfcn) ?_ ?_ hphone
      (hcell.trans same.arfcn.symm) (same.arfcn.symm ▸ hdown)
    · exact same.arfcn.symm ▸ hrecords.held (tuned_inCell inCell)
    · exact List.forall_mem_append.2 ⟨hup, side_messagesOf inCell⟩
  | leave same inCell =>
    rename_i host' side
    have hsync : ∃ errand, Catcher.SentOn cfg errand (host'.startSync cfg env) :=
      Catcher.startSync_sentOn (same.started.trans hstarted)
    obtain ⟨errand, hsent⟩ := hsync
    exact of_sentOn hsent inCell hup hphone fun m hm => (hdown m hm).passing

/-- A scanner that is not in a cell lets an event pass. -/
theorem waits (h : Stage cfg heard s) {host : Catcher} (hw : Catcher.Waits s.host host)
    (hdeaf : ¬(s.host.state = .read ∨ s.host.state = .rach)) :
    Stage cfg heard { s with host := host } := by
  cases h with
  | starting hstart state up phone down coming =>
    exact .starting (hw.started.trans hstart) (hw.state.trans state) up phone down coming
  | asked hstart on up front_side phone down =>
    exact .asked (hw.started.trans hstart) (on.waits hw) up front_side phone down
  | measuring hstart on up phone range filled_lt down =>
    exact .measuring (hw.started.trans hstart) (on.waits hw) up phone range filled_lt down
  | measured hstart on up phone down front_passing levels_lt back_passing =>
    exact .measured (hw.started.trans hstart) (on.waits hw) up phone down front_passing levels_lt
      back_passing
  | searching hstart on up job_eq phone down =>
    exact .searching (hw.started.trans hstart) (on.waits hw) up job_eq phone down
  | searched hstart on up phone down front_passing answer =>
    exact .searched (hw.started.trans hstart) (on.waits hw) up phone down front_passing answer
  | attached attached arfcn record up phone cell down => exact absurd attached.state hdeaf

/-- A scanner in a cell is in no other stage. -/
theorem attached_of_state (h : Stage cfg heard s)
    (hstate : s.host.state = .read ∨ s.host.state = .rach) :
    s.host.Attached cfg ∧ s.host.arfcn < 1024 ∧ s.host.sysinfo.FromCell heard s.host.arfcn ∧
      (∀ m ∈ s.up, SideRequest m) ∧ s.phone.Does .rest ∧
      s.phone.servingCell.arfcn = s.host.arfcn ∧ ∀ m ∈ s.down, Aside heard s.host.arfcn m := by
  cases h with
  | attached attached arfcn record up phone cell down =>
    exact ⟨attached, arfcn, record, up, phone, cell, down⟩
  | starting host state up phone down coming => simp [state] at hstate
  | asked host on up front_side phone down => exact absurd hstate on.deaf
  | measuring host on up phone range filled_lt down => exact absurd hstate on.deaf
  | measured host on up phone down front_passing levels_lt back_passing =>
    exact absurd hstate on.deaf
  | searching host on up job_eq phone down => exact absurd hstate on.deaf
  | searched host on up phone down front_passing answer => exact absurd hstate on.deaf

theorem answer_silent (s : ScanSystem) (host : Catcher) :
    (s.answer (host, [])).1 = { s with host := host } := by
  rw [ScanSystem.answer]
  change { s with host := host, up := s.up ++ [] } = { s with host := host }
  rw [List.append_nil]

theorem timer_step (h : Stage cfg heard s) (env : Surroundings) :
    Stage cfg heard (s.step cfg (.timer env)).1 := by
  change Stage cfg heard (s.answer (Catcher.step cfg s.host (.timer, env))).1
  by_cases hstate : s.host.state = .read ∨ s.host.state = .rach
  · obtain ⟨attached, arfcn, record, up, phone, cell, down⟩ := h.attached_of_state hstate
    exact of_attends (Catcher.timer_attends attached) attached.started arfcn up phone cell
      (Catcher.step_records record) down
  · have hwaits : Catcher.Waits s.host (Catcher.step cfg s.host (.timer, env)).1 ∧
        (Catcher.step cfg s.host (.timer, env)).2 = [] := Catcher.timer_waits hstate
    obtain ⟨hw, hout⟩ := hwaits
    generalize Catcher.step cfg s.host (.timer, env) = r at hw hout
    obtain ⟨host, out⟩ := r
    obtain rfl : out = [] := hout
    rw [answer_silent]
    exact h.waits hw hstate

/-- A passing message outside of a cell, once it is off the queue. -/
theorem recv_passing (h : Stage cfg heard s) {sig : L1Signal} {heard' : List Radio} {cell : ℕ}
    (hsig : sig.Aside heard' cell) (hdeaf : ¬(s.host.state = .read ∨ s.host.state = .rach))
    (hreset : sig = .reset → s.host.started = true) (env : Surroundings) :
    Stage cfg heard (s.answer (s.host.rcvSignal cfg (sig, env))).1 := by
  have hwaits : Catcher.Waits s.host (s.host.rcvSignal cfg (sig, env)).1 ∧
      (s.host.rcvSignal cfg (sig, env)).2 = [] := Catcher.aside_waits hdeaf hsig hreset
  obtain ⟨hw, hout⟩ := hwaits
  generalize s.host.rcvSignal cfg (sig, env) = r at hw hout
  obtain ⟨host, out⟩ := r
  obtain rfl : out = [] := hout
  rw [answer_silent]
  exact h.waits hw hdeaf

/-- Outside of a cell, and once the scanner is started. -/
theorem recv_on_errand (h : Stage cfg heard s) {msg : Octets} (hmsg : Passing msg)
    (hdeaf : ¬(s.host.state = .read ∨ s.host.state = .rach)) (hstarted : s.host.started = true)
    (env : Surroundings) :
    Stage cfg heard (s.answer (s.host.layer23Step cfg (.recv msg, env))).1 := by
  obtain ⟨heard', cell, sig, hrecv, hsig⟩ := hmsg
  rw [Catcher.recv_one hrecv]
  exact h.recv_passing hsig hdeaf (fun _ => hstarted) env

theorem recv_step (h : Stage cfg heard s) (env : Surroundings) :
    Stage cfg heard (s.step cfg (.recv env)).1 := by
  unfold ScanSystem.step
  dsimp only
  cases hs : s.down with
  | nil => exact h
  | cons msg rest =>
    dsimp only
    cases h with
    | starting host state up phone down coming =>
      rw [hs, List.forall_mem_cons] at down
      obtain ⟨heard', cell, sig, hrecv, hsig⟩ := down.1
      have hdeaf : ¬(s.host.state = .read ∨ s.host.state = .rach) := by simp [state]
      rw [Catcher.recv_one hrecv]
      by_cases hreset : sig = .reset
      · subst hreset
        have hsent : Catcher.SentOn cfg (.measure (0, 124))
            (Catcher.step cfg s.host (.reset, env)) := Catcher.first_sentOn host
        exact of_sentOn hsent (List.forall_mem_nil _) up phone down.2
      · have hlater : l1ctlTxResetReq l1ctlResTFull ∈ s.up ∨
            ∃ m ∈ rest, l1ctlRecv m = [.reset] := by
          refine coming.imp_right ?_
          rintro ⟨m, hm, hm_reset⟩
          rw [hs, List.mem_cons] at hm
          rcases hm with rfl | hm
          · rw [hrecv, List.cons.injEq] at hm_reset
            exact absurd hm_reset.1 hreset
          · exact ⟨m, hm, hm_reset⟩
        have hnext : Stage cfg heard { s with down := rest } :=
          .starting host state up phone down.2 hlater
        exact hnext.recv_passing hsig hdeaf (fun h => absurd h hreset) env
    | asked host on up front_side phone down =>
      rw [hs, List.forall_mem_cons] at down
      have hnext : Stage cfg heard { s with down := rest } :=
        .asked host on up front_side phone down.2
      exact hnext.recv_on_errand down.1 on.deaf host env
    | measuring host on up phone range filled_lt down =>
      rw [hs, List.forall_mem_cons] at down
      rcases down.1 with hpassing | ⟨levels, hlevels, rfl⟩
      · have hnext : Stage cfg heard { s with down := rest } :=
          .measuring host on up phone range filled_lt down.2
        exact hnext.recv_on_errand hpassing on.deaf host env
      · rw [Catcher.recv_levels hlevels, answer_silent]
        have hkeeps := Catcher.takeLevels_keeps levels s.host
        exact .measuring (hkeeps.2.2.1.trans host) (on.takeLevels levels) up phone range filled_lt
          down.2
    | @measured band levels front back host on up phone down front_passing levels_lt back_passing =>
      rw [hs] at down
      cases front with
      | nil =>
        rw [List.nil_append, List.cons.injEq] at down
        obtain ⟨rfl, rfl⟩ := down
        have hkeeps := Catcher.takeLevels_keeps levels s.host
        have hsent : ∃ errand, Catcher.SentOn cfg errand
            (Catcher.step cfg (s.host.takeLevels levels) (.pmDone, env)) :=
          Catcher.pmDone_sentOn (hkeeps.2.2.1.trans host) (on.takeLevels levels).2.1
        obtain ⟨errand, hsent⟩ := hsent
        have hup : ∀ m ∈ s.up, SideRequest m := by
          rw [up]
          exact List.forall_mem_nil _
        rw [Catcher.recv_done levels_lt]
        exact of_sentOn hsent (List.forall_mem_nil _) hup phone back_passing
      | cons first front =>
        rw [List.cons_append, List.cons.injEq] at down
        obtain ⟨rfl, hrest⟩ := down
        rw [List.forall_mem_cons] at front_passing
        rcases front_passing.1 with hpassing | ⟨levels', hlevels, rfl⟩
        · have hnext : Stage cfg heard { s with down := rest } :=
            .measured host on up phone hrest front_passing.2 levels_lt back_passing
          exact hnext.recv_on_errand hpassing on.deaf host env
        · rw [Catcher.recv_levels hlevels, answer_silent]
          have hkeeps := Catcher.takeLevels_keeps levels' s.host
          exact .measured (hkeeps.2.2.1.trans host) (on.takeLevels levels') up phone hrest
            front_passing.2 levels_lt back_passing
    | searching host on up job_eq phone down =>
      rw [hs, List.forall_mem_cons] at down
      have hnext : Stage cfg heard { s with down := rest } :=
        .searching host on up job_eq phone down.2
      exact hnext.recv_on_errand down.1 on.deaf host env
    | @searched arfcn conf front back host on up phone down front_passing answer =>
      rw [hs] at down
      cases front with
      | nil =>
        rw [List.nil_append, List.cons.injEq] at down
        obtain ⟨rfl, rfl⟩ := down
        have hup : ∀ m ∈ s.up, SideRequest m := by
          rw [up]
          exact List.forall_mem_nil _
        cases answer with
        | found snr bsic conf there behind =>
          have hread : (Catcher.step cfg s.host (.fbsbResp bsic, env)).1.Attached cfg ∧
              (Catcher.step cfg s.host (.fbsbResp bsic, env)).1.arfcn = arfcn ∧
              (Catcher.step cfg s.host (.fbsbResp bsic, env)).1.sysinfo =
                { arfcn := arfcn, bsic := bsic.toNat } :=
            Catcher.fbsbResp_attached on host bsic
          obtain ⟨hattached, harfcn, hsysinfo⟩ := hread
          have hrecord : (Catcher.step cfg s.host (.fbsbResp bsic, env)).1.sysinfo.FromCell heard
              (Catcher.step cfg s.host (.fbsbResp bsic, env)).1.arfcn := by
            rw [hsysinfo, harfcn]
            exact .start _
          have hlt : (Catcher.step cfg s.host (.fbsbResp bsic, env)).1.arfcn < 1024 :=
            harfcn.symm ▸ on.2.2.1
          rw [Catcher.recv_one conf]
          change Stage cfg heard
            (ScanSystem.answer _ ((Catcher.step cfg s.host (.fbsbResp bsic, env)).1, [])).1
          rw [answer_silent]
          exact .attached hattached hlt hrecord hup phone (there.trans harfcn.symm)
            (harfcn.symm ▸ behind)
        | missed conf behind =>
          have hsync : ∃ errand, Catcher.SentOn cfg errand (s.host.startSync cfg env) :=
            Catcher.startSync_sentOn host
          obtain ⟨errand, hsent⟩ := hsync
          rw [Catcher.recv_one conf]
          exact of_sentOn hsent (List.forall_mem_nil _) hup phone behind
      | cons first front =>
        rw [List.cons_append, List.cons.injEq] at down
        obtain ⟨rfl, hrest⟩ := down
        rw [List.forall_mem_cons] at front_passing
        have hnext : Stage cfg heard { s with down := rest } :=
          .searched host on up phone hrest front_passing.2 answer
        exact hnext.recv_on_errand front_passing.1 on.deaf host env
    | attached attached arfcn record up phone cell down =>
      rw [hs, List.forall_mem_cons] at down
      obtain ⟨sig, hrecv, hsig⟩ := down.1
      rw [Catcher.recv_one hrecv]
      exact of_attends (Catcher.aside_attends attached hsig) attached.started arfcn up phone cell
        (Catcher.aside_records record hsig) down.2

end Stage

def heardIn (out : List ScanOut) : List Radio :=
  out.filterMap fun | .radio r => some r | .scanner _ => none

theorem heardIn_append (out out' : List ScanOut) :
    heardIn (out ++ out') = heardIn out ++ heardIn out' := List.filterMap_append

theorem heardIn_scanner (out : List CatcherOut) : heardIn (out.map .scanner) = [] := by
  rw [heardIn, List.filterMap_map, List.filterMap_eq_nil_iff]
  exact fun _ _ => rfl

theorem heardIn_radio (heard : List Radio) : heardIn (heard.map .radio) = heard := by
  rw [heardIn, List.filterMap_map]
  exact List.filterMap_some

namespace Stage
variable {cfg : CatcherConfig} {heard : List Radio} {s : ScanSystem}

/-- Whatever happens next, the errand is at one place again. -/
theorem step (h : Stage cfg heard s) (e : ScanEvent) :
    Stage cfg (heard ++ heardIn ((scanSystem cfg).step s e).2) ((scanSystem cfg).step s e).1 := by
  cases e with
  | recv env =>
    have hsilent : heardIn (s.step cfg (.recv env)).2 = [] := by
      unfold ScanSystem.step
      dsimp only
      split
      · rfl
      · exact heardIn_scanner _
    change Stage cfg (heard ++ heardIn (s.step cfg (.recv env)).2) _
    rw [hsilent, List.append_nil]
    exact h.recv_step env
  | timer env =>
    change Stage cfg (heard ++ heardIn (List.map _ _)) _
    rw [heardIn_scanner, List.append_nil]
    exact h.timer_step env
  | handler =>
    have hsilent : heardIn (s.step cfg .handler).2 = [] := by
      unfold ScanSystem.step
      dsimp only
      split <;> rfl
    change Stage cfg (heard ++ heardIn (s.step cfg .handler).2) _
    rw [hsilent, List.append_nil]
    exact h.handler_step
  | phone e =>
    change Stage cfg (heard ++ heardIn (List.map _ _)) _
    rw [heardIn_radio]
    exact h.phone_step e

/-- An invariant of the system and of what came out of it, on the footing of the stages. -/
theorem history {J : ScanSystem → List ScanOut → Prop}
    (hstart : ∀ booted, J (ScanSystem.start booted) [])
    (hstep : ∀ s out e, Stage cfg (heardIn out) s → J s out →
      J ((scanSystem cfg).step s e).1 (out ++ ((scanSystem cfg).step s e).2))
    (booted : Bool) (es : List ScanEvent) :
    Stage cfg (heardIn ((scanSystem cfg).run (ScanSystem.start booted) es).2)
        ((scanSystem cfg).run (ScanSystem.start booted) es).1 ∧
      J ((scanSystem cfg).run (ScanSystem.start booted) es).1
        ((scanSystem cfg).run (ScanSystem.start booted) es).2 := by
  have hboth : Stage cfg (heardIn []) (ScanSystem.start booted) ∧
      J (ScanSystem.start booted) [] :=
    ⟨start cfg booted, hstart booted⟩
  refine (scanSystem cfg).history_run (J := fun s out => Stage cfg (heardIn out) s ∧ J s out) ?_
    hboth es
  rintro s out e ⟨hstage, hJ⟩
  rw [heardIn_append]
  exact ⟨hstage.step e, hstep s out e hstage hJ⟩

theorem run (cfg : CatcherConfig) (booted : Bool) (es : List ScanEvent) :
    Stage cfg (heardIn ((scanSystem cfg).run (ScanSystem.start booted) es).2)
      ((scanSystem cfg).run (ScanSystem.start booted) es).1 :=
  (history (J := fun _ _ => True) (fun _ => trivial) (fun _ _ _ _ _ => trivial) booted es).1

end Stage
end ImsiCatcher

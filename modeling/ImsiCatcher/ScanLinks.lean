import ImsiCatcher.L1Link
import ImsiCatcher.ScanProtocol

/-!
# The scanner and the phone over their links

The two programs again, with the links themselves between them instead of a queue in each
direction: the serial line and the sockets take steps of their own, what comes out of them is
handed to the program at that end, and what the programs send goes in at the other. The messages
of both programs fit into the buffers on their way, and the links neither lose nor reorder them,
so that the two systems let out the same.
-/

namespace ImsiCatcher

/-- The receivers of `osmocon` and of the phone, with a handler for the DLCI of the layer 2
program and with room for what the other end sends on it. -/
structure ScanLinks where
  osmocon : SercommConfig
  phone : SercommConfig
  osmocon_handler : osmocon.dlciHandler scDlciL1aL23 = true
  phone_handler : phone.dlciHandler scDlciL1aL23 = true
  osmocon_room : l3MsgSize < osmocon.rxMsgSize
  phone_room : 16 < phone.rxMsgSize

/-- A step of the line, of `osmocon` or of the socket, by which neither program sends. -/
abbrev ScanLinks.DownlinkStep (l : ScanLinks) : Type :=
  { e : LineEvent ⊕ SocketEvent // DownlinkAllowed l.osmocon e ∧ downlinkSent e = [] }

abbrev ScanLinks.UplinkStep (l : ScanLinks) : Type :=
  { e : ((Machine.QueueEvent Octets ⊕ ToolEvent) ⊕ LineEvent) ⊕ Machine.QueueEvent Octets //
    UplinkAllowed l.phone e ∧ uplinkSent e = [] }

inductive LinkEvent (l : ScanLinks) where
  | downlink (e : l.DownlinkStep) (env : Surroundings)
  | timer (env : Surroundings)
  | uplink (e : l.UplinkStep)
  | phone (e : PhoneEvent)

structure LinkSystem where
  host : Catcher := {}
  up : ((List Octets × Octets) × Line) × List Octets := ((([], []), {}), [])
  down : Line × Layer2Socket := ({}, {})
  phone : Phone := {}

def phoneHandler : Machine Phone Octets Octets := ⟨Phone.l1aL23Handler⟩

namespace LinkSystem
variable (l : ScanLinks)

def osmoSendL1 (s : LinkSystem) (msgs : List Octets) : LinkSystem :=
  { s with up := ((uplink l.phone).run s.up
      (msgs.map fun m => .inl (.inl (.inl (.enqueue (lengthPrefixed m)))))).1 }

def l1QueueForL2 (s : LinkSystem) (msgs : List Octets) : LinkSystem :=
  { s with down := ((downlink l.osmocon).run s.down
      (msgs.map fun m => .inl (.send scDlciL1aL23 m))).1 }

def start (booted : Bool) : LinkSystem :=
  (({} : LinkSystem).osmoSendL1 l [l1ctlTxResetReq l1ctlResTFull]).l1QueueForL2 l
    (if booted then [phoneBoot] else [])

def answer (s : LinkSystem) (r : Catcher × List CatcherOut) : LinkSystem × List ScanOut :=
  ({ s with host := r.1 }.osmoSendL1 l (messagesOf r.2), r.2.map .scanner)

def step (cfg : CatcherConfig) (s : LinkSystem) : LinkEvent l → LinkSystem × List ScanOut
  | .downlink e env =>
    let r := (downlink l.osmocon).step s.down e.1
    { s with down := r.1 }.answer l
      ((layer23 cfg).run s.host (r.2.map fun m => (.recv m, env)))
  | .timer env => s.answer l (s.host.layer23Step cfg (.timer, env))
  | .uplink e =>
    let r := (uplink l.phone).step s.up e.1
    let p := phoneHandler.run s.phone r.2
    ({ s with phone := p.1, up := r.1 }.l1QueueForL2 l p.2, [])
  | .phone e =>
    let r := s.phone.step e
    ({ s with phone := r.1 }.l1QueueForL2 l r.2, (s.phone.hears e).map .radio)

end LinkSystem

def linkSystem (cfg : CatcherConfig) (l : ScanLinks) :
    Machine LinkSystem (LinkEvent l) ScanOut :=
  ⟨LinkSystem.step l cfg⟩

/-! ### The messages fit -/

theorem SideRequest.length_le {m : Octets} (h : SideRequest m) : m.length ≤ 16 := by
  cases h <;> exact Nat.le_of_ble_eq_true rfl

/-- The longest request is the one to tune. -/
theorem CatcherOut.length_messages (o : CatcherOut) : ∀ m ∈ o.messages, m.length ≤ 16 := by
  cases o with
  | resetReq => exact List.forall_mem_singleton.2 (SideRequest.length_le .reset)
  | pmReqRange lower upper => exact List.forall_mem_singleton.2 (Nat.le_of_ble_eq_true rfl)
  | fbsbReq arfcn => exact List.forall_mem_singleton.2 (Nat.le_of_ble_eq_true rfl)
  | ccchModeReq combined =>
    have hin : (CatcherOut.ccchModeReq combined).InCell := trivial
    exact fun m hm => (hin.side m hm).length_le
  | chanRqd cr combined =>
    have hin : (CatcherOut.chanRqd cr combined).InCell := trivial
    exact fun m hm => (hin.side m hm).length_le
  | _ => exact List.forall_mem_nil _

theorem length_messagesOf (out : List CatcherOut) : ∀ m ∈ messagesOf out, m.length ≤ 16 := by
  intro m hm
  obtain ⟨o, -, hmem⟩ := List.mem_flatMap.1 hm
  exact o.length_messages m hmem

namespace Phone
variable {p : Phone}

def Room (p : Phone) : Prop :=
  (p.pm.msg.getD (l1ctlMsgbAlloc l1ctlPmConf)).length ≤ l3MsgSize

theorem Room.congr {p' : Phone} (h : p.Room) (hpm : p'.pm.msg = p.pm.msg) : p'.Room := by
  unfold Room
  rwa [hpm]

theorem room_init : ({} : Phone).Room := Nat.le_of_ble_eq_true rfl

theorem l1ctlRxFbsbReq_pm (msg : Octets) : (p.l1ctlRxFbsbReq msg).pm = p.pm := by
  unfold l1ctlRxFbsbReq
  split <;> rfl

theorem l1ctlRxPmReq_msg (msg : Octets) : (p.l1ctlRxPmReq msg).pm.msg = p.pm.msg := by
  unfold l1ctlRxPmReq
  dsimp only
  split <;> rfl

theorem enableCcch_pm : p.enableCcch.pm = p.pm := by
  unfold enableCcch
  split
  · rfl
  · split <;> rfl

theorem l1ctlRxResetReq_room (h : p.Room) (msg : Octets) :
    (p.l1ctlRxResetReq msg).1.Room ∧
      ∀ m ∈ (p.l1ctlRxResetReq msg).2, m.length ≤ l3MsgSize := by
  have hconf : ∀ m ∈ [l1ctlTxReset l1ctlResetConf (octet msg 4)], m.length ≤ l3MsgSize :=
    List.forall_mem_singleton.2 (Nat.le_of_ble_eq_true rfl)
  unfold l1ctlRxResetReq
  split
  · exact ⟨h.congr rfl, hconf⟩
  · split
    · exact ⟨h.congr rfl, hconf⟩
    · exact ⟨h, List.forall_mem_nil _⟩

theorem handler_room (h : p.Room) (msg : Octets) :
    (p.l1aL23Handler msg).1.Room ∧ ∀ m ∈ (p.l1aL23Handler msg).2, m.length ≤ l3MsgSize := by
  have hsilent : ∀ p' : Phone, p'.pm.msg = p.pm.msg →
      p'.Room ∧ ∀ m ∈ ([] : List Octets), m.length ≤ l3MsgSize :=
    fun p' hpm => ⟨h.congr hpm, List.forall_mem_nil _⟩
  unfold l1aL23Handler
  dsimp only
  split_ifs
  · exact hsilent p rfl
  · exact hsilent _ (congrArg L1sPm.msg (l1ctlRxFbsbReq_pm msg))
  · exact hsilent _ rfl
  · exact hsilent _ rfl
  · exact hsilent _ (l1ctlRxPmReq_msg msg)
  · exact l1ctlRxResetReq_room h msg
  · refine ⟨h.congr (congrArg L1sPm.msg enableCcch_pm), ?_⟩
    exact List.forall_mem_singleton.2 (Nat.le_of_ble_eq_true rfl)
  · exact hsilent p rfl

/-- An entry goes into the message, or into a new one where it does not fit any more. -/
theorem l1sPmResp_room (h : p.Room) (arfcn : ℕ) (rxlev : UInt8) :
    (p.l1sPmResp arfcn rxlev).1.Room ∧
      ∀ m ∈ (p.l1sPmResp arfcn rxlev).2, m.length ≤ l3MsgSize := by
  unfold Room at h
  unfold l1sPmResp
  dsimp only
  generalize p.pm.msg.getD (l1ctlMsgbAlloc l1ctlPmConf) = msg at h
  have hflushed : ∀ m ∈ if l3MsgSize - msg.length < 4 then [msg] else [],
      m.length ≤ l3MsgSize := by
    split
    · exact List.forall_mem_singleton.2 h
    · exact List.forall_mem_nil _
  have hfilled : ((if l3MsgSize - msg.length < 4 then l1ctlMsgbAlloc l1ctlPmConf else msg) ++
      pmEntry (arfcn, rxlev)).length ≤ l3MsgSize := by
    rw [List.length_append]
    change _ + 4 ≤ l3MsgSize
    split
    · exact Nat.le_of_ble_eq_true rfl
    · omega
  generalize ((if l3MsgSize - msg.length < 4 then l1ctlMsgbAlloc l1ctlPmConf else msg) ++
    pmEntry (arfcn, rxlev)) = filled at hfilled
  split
  · split
    · exact ⟨hfilled, hflushed⟩
    · refine ⟨room_init, List.forall_mem_append.2 ⟨hflushed, ?_⟩⟩
      rw [List.forall_mem_singleton, List.length_set]
      exact hfilled
  · exact ⟨hfilled, hflushed⟩

theorem l1sFbdetResp_pm (mode attempt : ℕ) (found : Option (ℤ × ℕ)) :
    (p.l1sFbdetResp mode attempt found).pm = p.pm := by
  unfold l1sFbdetResp
  dsimp only
  repeat' split
  all_goals rfl

theorem l1sSbdetResp_pm (attempt : ℕ) (found : Option SchBurst) :
    (p.l1sSbdetResp attempt found).pm = p.pm := by
  unfold l1sSbdetResp
  dsimp only
  split
  · rfl
  · exact enableCcch_pm

theorem l1aComplExecute_room (h : p.Room) :
    p.l1aComplExecute.1.Room ∧ ∀ m ∈ p.l1aComplExecute.2, m.length ≤ l3MsgSize := by
  have hrach : ∀ m ∈ if p.complRach then [rachConf p.lastRach.fn.toNat p.lastRach.bandArfcn]
      else [], m.length ≤ l3MsgSize := by
    split
    · exact List.forall_mem_singleton.2 (Nat.le_of_ble_eq_true rfl)
    · exact List.forall_mem_nil _
  have hresp : ∀ res, ∀ m ∈ [p.l1ctlFbsbResp res], m.length ≤ l3MsgSize :=
    fun _ => List.forall_mem_singleton.2 (Nat.le_of_ble_eq_true rfl)
  unfold l1aComplExecute l1aFbCompl
  dsimp only
  split
  · split
    · exact ⟨h.congr rfl, List.forall_mem_append.2 ⟨hresp 255, hrach⟩⟩
    · exact ⟨h.congr rfl, List.forall_mem_append.2 ⟨hresp 0, hrach⟩⟩
  · exact ⟨h.congr rfl, hrach⟩

theorem step_room (h : p.Room) (e : PhoneEvent) :
    (p.step e).1.Room ∧ ∀ m ∈ (p.step e).2, m.length ≤ l3MsgSize := by
  have hsilent : ∀ p' : Phone, p'.pm = p.pm →
      p'.Room ∧ ∀ m ∈ ([] : List Octets), m.length ≤ l3MsgSize :=
    fun p' hpm => ⟨h.congr (congrArg L1sPm.msg hpm), List.forall_mem_nil _⟩
  cases e with
  | compl => exact l1aComplExecute_room h
  | pmResp rxlev =>
    unfold step
    dsimp only
    split
    · exact l1sPmResp_room h _ rxlev
    · exact hsilent p rfl
  | fbdetResp attempt found =>
    unfold step
    dsimp only
    split
    · exact hsilent _ (l1sFbdetResp_pm _ _ found)
    · exact hsilent p rfl
  | sbdetResp attempt found =>
    unfold step
    dsimp only
    split
    · exact hsilent _ (l1sSbdetResp_pm _ found)
    · exact hsilent p rfl
  | mframeSchedule task =>
    refine hsilent (p.mframeSchedule task) ?_
    unfold mframeSchedule
    split <;> rfl
  | schedGsmtimeExecute =>
    refine hsilent p.schedGsmtimeExecute ?_
    unfold schedGsmtimeExecute
    split <;> rfl
  | nbResp task block =>
    unfold step
    dsimp only
    split
    · refine ⟨h.congr rfl, List.forall_mem_singleton.2 ?_⟩
      rw [dataInd, List.length_append, block.length_data]
      exact Nat.le_of_ble_eq_true rfl
    · exact hsilent p rfl
  | rachResp fn =>
    unfold step
    dsimp only
    split <;> exact hsilent _ rfl

theorem handler_run_room (h : p.Room) (msgs : List Octets) :
    (phoneHandler.run p msgs).1.Room ∧ ∀ m ∈ (phoneHandler.run p msgs).2, m.length ≤ l3MsgSize := by
  induction msgs generalizing p with
  | nil => exact ⟨h, List.forall_mem_nil _⟩
  | cons msg msgs ih =>
    obtain ⟨hnext, hfirst⟩ := handler_room h msg
    obtain ⟨hend, hrest⟩ := ih hnext
    exact ⟨hend, List.forall_mem_append.2 ⟨hfirst, hrest⟩⟩

end Phone

/-! ### The links as queues -/

/-- The same programs, and on each link the messages that are in the queue. -/
structure Linked (l : ScanLinks) (s : LinkSystem) (t : ScanSystem) : Prop where
  host : s.host = t.host
  phone : s.phone = t.phone
  up : UplinkHolds l.phone s.up t.up
  down : DownlinkHolds l.osmocon s.down t.down
  room : t.phone.Room

section Links
variable {l : ScanLinks} {s : LinkSystem} {t : ScanSystem}

theorem uplinkHolds_osmoSendL1 (h : UplinkHolds l.phone s.up t.up) {msgs : List Octets}
    (hmsgs : ∀ m ∈ msgs, m.length ≤ 16) :
    UplinkHolds l.phone (s.osmoSendL1 l msgs).up (t.up ++ msgs) := by
  have hok : ∀ e ∈ msgs.map fun m => .inl (.inl (.inl (.enqueue (lengthPrefixed m)))),
      UplinkAllowed l.phone e := by
    refine List.forall_mem_map.2 fun m hm => ?_
    have hlen := hmsgs m hm
    have hroom := l.phone_room
    have hfits : ToolSocket.FitsPhone l.phone m := ⟨by omega, by omega⟩
    exact ⟨rfl, hfits⟩
  have hput : (msgs.map fun m => .inl (.inl (.inl (.enqueue (lengthPrefixed m))))).flatMap
      uplinkSent = msgs := by
    rw [List.flatMap_map]
    exact List.flatMap_singleton' msgs
  have hsilent : ((uplink l.phone).run s.up
      (msgs.map fun m => .inl (.inl (.inl (.enqueue (lengthPrefixed m)))))).2 = [] :=
    Machine.run_silent _ (List.forall_mem_map.2 fun _ _ _ => rfl)
  have hheld := (uplink_conveys l.phone_handler).silent_run h hok hsilent
  rwa [hput] at hheld

theorem downlinkHolds_l1QueueForL2 (h : DownlinkHolds l.osmocon s.down t.down)
    {msgs : List Octets} (hmsgs : ∀ m ∈ msgs, m.length ≤ l3MsgSize) :
    DownlinkHolds l.osmocon (s.l1QueueForL2 l msgs).down (t.down ++ msgs) := by
  have hok : ∀ e ∈ msgs.map fun m => .inl (.send scDlciL1aL23 m),
      DownlinkAllowed l.osmocon e := by
    refine List.forall_mem_map.2 fun m hm => ?_
    have hlen := hmsgs m hm
    have hroom := l.osmocon_room
    have hsend : Sendable l.osmocon scDlciL1aL23 m := ⟨by decide, by decide, by omega⟩
    have hfits : FitsLayer2 m := hlen.trans (Nat.le_of_ble_eq_true rfl)
    exact ⟨hsend, List.forall_mem_singleton.2 hfits⟩
  have hput : (msgs.map fun m => .inl (.send scDlciL1aL23 m)).flatMap downlinkSent = msgs := by
    rw [List.flatMap_map]
    exact List.flatMap_singleton' msgs
  have hsilent : ((downlink l.osmocon).run s.down
      (msgs.map fun m => .inl (.send scDlciL1aL23 m))).2 = [] :=
    Machine.run_silent _ (List.forall_mem_map.2 fun _ _ _ => rfl)
  have hheld := (downlink_conveys l.osmocon_handler).silent_run h hok hsilent
  rwa [hput] at hheld

/-- What the host answers goes into the queue and into the link. -/
theorem Linked.answer (h : Linked l s t) (r : Catcher × List CatcherOut) :
    Linked l (s.answer l r).1 (t.answer r).1 ∧ (s.answer l r).2 = (t.answer r).2 :=
  ⟨⟨rfl, h.phone, uplinkHolds_osmoSendL1 h.up (length_messagesOf r.2), h.down, h.room⟩, rfl⟩

theorem linked_start (l : ScanLinks) (booted : Bool) :
    Linked l (LinkSystem.start l booted) (ScanSystem.start booted) := by
  have hreset : ∀ m ∈ [l1ctlTxResetReq l1ctlResTFull], m.length ≤ 16 :=
    List.forall_mem_singleton.2 (Nat.le_of_ble_eq_true rfl)
  have hboot : ∀ m ∈ if booted then [phoneBoot] else [], m.length ≤ l3MsgSize := by
    split
    · exact List.forall_mem_singleton.2 (Nat.le_of_ble_eq_true rfl)
    · exact List.forall_mem_nil _
  exact ⟨rfl, rfl,
    uplinkHolds_osmoSendL1 (s := {}) (t := { up := [] }) (uplinkHolds_init l.phone) hreset,
    downlinkHolds_l1QueueForL2 (s := ({} : LinkSystem).osmoSendL1 l _) (t := {})
      (downlinkHolds_init l.osmocon) hboot, Phone.room_init⟩

/-! ### Steps of the links -/

/-- The scanner takes messages one after the other. -/
theorem recv_run (cfg : CatcherConfig) (env : Surroundings) {msgs rest : List Octets}
    (hdown : t.down = msgs ++ rest) :
    (scanSystem cfg).run t (List.replicate msgs.length (.recv env)) =
      { t with down := rest }.answer
        ((layer23 cfg).run t.host (msgs.map fun m => (.recv m, env))) := by
  induction msgs generalizing t with
  | nil =>
    obtain rfl : t.down = rest := hdown
    rw [ScanSystem.answer]
    change (t, []) = ({ t with up := t.up ++ [] }, [])
    rw [List.append_nil]
  | cons m msgs ih =>
    have hstep : (scanSystem cfg).step t (.recv env) =
        { t with down := msgs ++ rest }.answer (t.host.layer23Step cfg (.recv m, env)) := by
      change t.step cfg (.recv env) = _
      rw [ScanSystem.step, hdown]
      rfl
    rw [List.length_cons, List.replicate_succ, Machine.run_cons, hstep, ih rfl]
    simp only [ScanSystem.answer, List.map_cons, Machine.run_cons, messagesOf_append,
      List.append_assoc, List.map_append]
    rfl

/-- The main loop of the phone takes requests one after the other. -/
theorem handler_run (cfg : CatcherConfig) {msgs rest : List Octets} (hup : t.up = msgs ++ rest) :
    (scanSystem cfg).run t (List.replicate msgs.length .handler) =
      ({ t with
          phone := (phoneHandler.run t.phone msgs).1
          up := rest
          down := t.down ++ (phoneHandler.run t.phone msgs).2 }, []) := by
  induction msgs generalizing t with
  | nil =>
    obtain rfl : t.up = rest := hup
    change (t, []) = ({ t with down := t.down ++ [] }, [])
    rw [List.append_nil]
  | cons m msgs ih =>
    have hstep : (scanSystem cfg).step t .handler =
        ({ t with
            phone := (t.phone.l1aL23Handler m).1
            up := msgs ++ rest
            down := t.down ++ (t.phone.l1aL23Handler m).2 }, []) := by
      change t.step cfg .handler = _
      rw [ScanSystem.step, hup]
      rfl
    rw [List.length_cons, List.replicate_succ, Machine.run_cons, hstep, ih rfl]
    simp only [Machine.run_cons, List.append_assoc]
    rfl

theorem Linked.phone_step {cfg : CatcherConfig} (h : Linked l s t) (e : PhoneEvent) :
    Linked l ((linkSystem cfg l).step s (.phone e)).1 ((scanSystem cfg).step t (.phone e)).1 ∧
      ((linkSystem cfg l).step s (.phone e)).2 = ((scanSystem cfg).step t (.phone e)).2 := by
  have hroom := Phone.step_room h.room e
  refine ⟨⟨h.host, ?_, h.up, ?_, hroom.1⟩, ?_⟩
  · change (s.phone.step e).1 = (t.phone.step e).1
    rw [h.phone]
  · change DownlinkHolds l.osmocon (s.l1QueueForL2 l (s.phone.step e).2).down
      (t.down ++ (t.phone.step e).2)
    rw [h.phone]
    exact downlinkHolds_l1QueueForL2 h.down hroom.2
  · change (s.phone.hears e).map _ = (t.phone.hears e).map _
    rw [h.phone]

/-- Each step of the system with the links is matched by steps of the one with the queues. -/
theorem Linked.step (cfg : CatcherConfig) (h : Linked l s t) (e : LinkEvent l) :
    ∃ es, Linked l ((linkSystem cfg l).step s e).1 ((scanSystem cfg).run t es).1 ∧
      ((linkSystem cfg l).step s e).2 = ((scanSystem cfg).run t es).2 := by
  cases e with
  | downlink e env =>
    obtain ⟨rest, hrest, hstep⟩ := downlink_conveys l.osmocon_handler s.down t.down e.1 h.down e.2.1
    rw [e.2.2, List.append_nil, List.flatMap_singleton'] at hstep
    refine ⟨List.replicate ((downlink l.osmocon).step s.down e.1).2.length (.recv env), ?_⟩
    rw [recv_run cfg env hstep.symm, ← h.host]
    have hnext : Linked l { s with down := ((downlink l.osmocon).step s.down e.1).1 }
        { t with down := rest } := ⟨h.host, h.phone, h.up, hrest, h.room⟩
    exact hnext.answer _
  | timer env =>
    have hstep : (scanSystem cfg).step t (.timer env) =
        t.answer (s.host.layer23Step cfg (.timer, env)) := by
      rw [h.host]
      rfl
    refine ⟨[.timer env], ?_⟩
    rw [Machine.run_cons, Machine.run_nil, List.append_nil, hstep]
    exact h.answer _
  | uplink e =>
    obtain ⟨rest, hrest, hstep⟩ := uplink_conveys l.phone_handler s.up t.up e.1 h.up e.2.1
    rw [e.2.2, List.append_nil, List.flatMap_singleton'] at hstep
    refine ⟨List.replicate ((uplink l.phone).step s.up e.1).2.length .handler, ?_⟩
    rw [handler_run cfg hstep.symm, ← h.phone]
    have hroom := Phone.handler_run_room (h.phone ▸ h.room) ((uplink l.phone).step s.up e.1).2
    exact ⟨⟨h.host, rfl, hrest, downlinkHolds_l1QueueForL2 h.down hroom.2, hroom.1⟩, rfl⟩
  | phone e =>
    refine ⟨[.phone e], ?_⟩
    rw [Machine.run_cons, Machine.run_nil, List.append_nil]
    exact h.phone_step e

/-! ### Steps of the queues -/

/-- What the downlink lets out in some steps, the scanner takes one after the other. -/
theorem downlink_run (cfg : CatcherConfig) (s : LinkSystem) (es : List l.DownlinkStep)
    (env : Surroundings) :
    (linkSystem cfg l).run s (es.map fun e => .downlink e env) =
      { s with down := ((downlink l.osmocon).run s.down (es.map Subtype.val)).1 }.answer l
        ((layer23 cfg).run s.host (((downlink l.osmocon).run s.down (es.map Subtype.val)).2.map
          fun m => (.recv m, env))) := by
  induction es generalizing s with
  | nil => rfl
  | cons e es ih =>
    rw [List.map_cons, Machine.run_cons, ih]
    simp only [linkSystem, LinkSystem.step, LinkSystem.answer, LinkSystem.osmoSendL1,
      List.map_cons, Machine.run_cons, List.map_append, Machine.run_append, messagesOf_append]

theorem uplink_run (cfg : CatcherConfig) (s : LinkSystem) (es : List l.UplinkStep) :
    (linkSystem cfg l).run s (es.map .uplink) =
      ({ s with
          phone := (phoneHandler.run s.phone
            ((uplink l.phone).run s.up (es.map Subtype.val)).2).1
          up := ((uplink l.phone).run s.up (es.map Subtype.val)).1 }.l1QueueForL2 l
        (phoneHandler.run s.phone ((uplink l.phone).run s.up (es.map Subtype.val)).2).2, []) := by
  induction es generalizing s with
  | nil => rfl
  | cons e es ih =>
    rw [List.map_cons, Machine.run_cons, ih]
    simp only [linkSystem, LinkSystem.step, LinkSystem.l1QueueForL2, List.map_cons,
      Machine.run_cons, List.map_append, Machine.run_append, List.append_nil]

/-- Steps of a link without new messages that let out the first one it holds hold the rest. -/
theorem exists_next {σ ε : Type} {M : Machine σ ε Octets} {Holds : σ → List Octets → Prop}
    {ok : ε → Prop} {put : ε → List Octets} (hM : M.Conveys Holds ok put fun m => [m]) {s : σ}
    {m : Octets} {rest : List Octets} (hs : Holds s (m :: rest))
    (hnext : ∃ es, (∀ e ∈ es, ok e ∧ put e = []) ∧ (M.run s es).2 = [m]) :
    ∃ es : List { e : ε // ok e ∧ put e = [] }, (M.run s (es.map Subtype.val)).2 = [m] ∧
      Holds (M.run s (es.map Subtype.val)).1 rest := by
  obtain ⟨es, hes, hout⟩ := hnext
  obtain ⟨rest', hrest', hrun⟩ := hM.run hs fun e he => (hes e he).1
  have hsilent : es.flatMap put = [] := List.flatMap_eq_nil_iff.2 fun e he => (hes e he).2
  rw [hout, hsilent, List.append_nil] at hrun
  obtain rfl : rest' = rest := (List.cons.inj hrun).2
  lift es to List { e : ε // ok e ∧ put e = [] } using hes
  exact ⟨es, hout, hrest'⟩

/-- The downlink can bring its next message, and no other. -/
theorem exists_next_down {m : Octets} {rest : List Octets}
    (h : DownlinkHolds l.osmocon s.down (m :: rest)) :
    ∃ es : List l.DownlinkStep,
      ((downlink l.osmocon).run s.down (es.map Subtype.val)).2 = [m] ∧
      DownlinkHolds l.osmocon ((downlink l.osmocon).run s.down (es.map Subtype.val)).1 rest := by
  have hfeed : ∀ o, ∀ e ∈ toLayer2 o, ∀ t, (layer2Socket.step t e).2 = [] := by
    intro o e he t
    unfold toLayer2 at he
    split at he
    · rw [List.mem_singleton.1 he]
      rfl
    · exact absurd he List.not_mem_nil
  have hselect : ∀ t a items, Layer2Socket.Holds t (a :: items) →
      ∃ e, (Layer2Socket.Allowed e ∧ Layer2Socket.written e = []) ∧
        (layer2Socket.step t e).2 = [a] :=
    fun t a items ht => ⟨.select, ⟨trivial, rfl⟩, congrArg Prod.snd (Layer2Socket.select_cons ht)⟩
  have hconveys := downlink_conveys l.osmocon_handler
  exact exists_next hconveys h
    (hconveys.cascade_next (Line.drains_with l.osmocon FitsLayer2) hfeed hselect h)

/-- The uplink can bring its next request, and no other. -/
theorem exists_next_up {m : Octets} {rest : List Octets}
    (h : UplinkHolds l.phone s.up (m :: rest)) :
    ∃ es : List l.UplinkStep,
      ((uplink l.phone).run s.up (es.map Subtype.val)).2 = [m] ∧
      UplinkHolds l.phone ((uplink l.phone).run s.up (es.map Subtype.val)).1 rest := by
  have hfeed : ∀ o : UInt8 × Octets,
      ∀ e ∈ if o.1 = scDlciL1aL23 then [Machine.QueueEvent.enqueue o.2] else [],
        ∀ t, (Machine.queue.step t e).2 = [] := by
    intro o e he t
    split at he
    · rw [List.mem_singleton.1 he]
      rfl
    · exact absurd he List.not_mem_nil
  have hdequeue : ∀ t a items, Machine.QueueHolds anything id t (a :: items) →
      ∃ e, (Machine.QueueAllowed anything e ∧ Machine.enqueued id e = []) ∧
        (Machine.queue.step t e).2 = [a] := by
    rintro t a items ⟨ht, -⟩
    rw [List.map_id] at ht
    subst ht
    exact ⟨.dequeue, ⟨trivial, rfl⟩, rfl⟩
  have hconveys := uplink_conveys l.phone_handler
  exact exists_next hconveys h
    (hconveys.cascade_next (toPhone_drains l.phone_handler) hfeed hdequeue h)

/-- Each step of the system with the queues is matched by steps of the one with the links. -/
theorem Linked.queue_step (cfg : CatcherConfig) (h : Linked l s t) (e : ScanEvent) :
    ∃ es, Linked l ((linkSystem cfg l).run s es).1 ((scanSystem cfg).step t e).1 ∧
      ((scanSystem cfg).step t e).2 = ((linkSystem cfg l).run s es).2 := by
  have hone : ∀ e, (linkSystem cfg l).run s [e] = (linkSystem cfg l).step s e := fun e => by
    rw [Machine.run_cons, Machine.run_nil, List.append_nil]
  cases e with
  | recv env =>
    change ∃ es, Linked l _ (t.step cfg (.recv env)).1 ∧ (t.step cfg (.recv env)).2 = _
    unfold ScanSystem.step
    dsimp only
    cases hdown : t.down with
    | nil => exact ⟨[], h, rfl⟩
    | cons m rest =>
      obtain ⟨es, hout, hheld⟩ := exists_next_down (hdown ▸ h.down)
      refine ⟨es.map fun e => .downlink e env, ?_⟩
      rw [downlink_run, hout, h.host]
      have hnext : Linked l { s with down := ((downlink l.osmocon).run s.down
          (es.map Subtype.val)).1 } { t with down := rest } :=
        ⟨h.host, h.phone, h.up, hheld, h.room⟩
      have hboth := hnext.answer (t.host.layer23Step cfg (.recv m, env))
      rw [List.map_singleton, Machine.run_cons, Machine.run_nil, List.append_nil]
      exact ⟨hboth.1, hboth.2.symm⟩
  | timer env =>
    obtain ⟨hnext, hout⟩ := h.answer (s.host.layer23Step cfg (.timer, env))
    refine ⟨[.timer env], ?_⟩
    rw [hone]
    change Linked l (s.answer l (s.host.layer23Step cfg (.timer, env))).1
      (t.answer (t.host.layer23Step cfg (.timer, env))).1 ∧
      (t.answer (t.host.layer23Step cfg (.timer, env))).2 = (s.answer l _).2
    rw [← h.host]
    exact ⟨hnext, hout.symm⟩
  | handler =>
    change ∃ es, Linked l _ (t.step cfg .handler).1 ∧ (t.step cfg .handler).2 = _
    unfold ScanSystem.step
    dsimp only
    cases hup : t.up with
    | nil => exact ⟨[], h, rfl⟩
    | cons m rest =>
      obtain ⟨es, hout, hheld⟩ := exists_next_up (hup ▸ h.up)
      refine ⟨es.map .uplink, ?_⟩
      have hroom := Phone.handler_room h.room m
      rw [uplink_run, hout, h.phone, Machine.run_cons, Machine.run_nil, List.append_nil]
      exact ⟨⟨h.host, rfl, hheld, downlinkHolds_l1QueueForL2 h.down hroom.2, hroom.1⟩, rfl⟩
  | phone e =>
    obtain ⟨hnext, hout⟩ := h.phone_step e
    refine ⟨[.phone e], ?_⟩
    rw [hone]
    exact ⟨hnext, hout.symm⟩

end Links

def SameResult (r : LinkSystem × List ScanOut) (r' : ScanSystem × List ScanOut) : Prop :=
  r.1.host = r'.1.host ∧ r.1.phone = r'.1.phone ∧ r.2 = r'.2

/-- Whatever scanner and phone do over the links between them, they do with a queue in each
direction, and whatever they can go on to do with the queues, they can over the links. -/
theorem scan_links (cfg : CatcherConfig) (l : ScanLinks) (booted : Bool) (es : List (LinkEvent l)) :
    ∃ es', SameResult ((linkSystem cfg l).run (LinkSystem.start l booted) es)
        ((scanSystem cfg).run (ScanSystem.start booted) es') ∧
      ∀ more', ∃ more,
        SameResult ((linkSystem cfg l).run (LinkSystem.start l booted) (es ++ more))
          ((scanSystem cfg).run (ScanSystem.start booted) (es' ++ more')) := by
  obtain ⟨es', hlinked, hout⟩ := (linkSystem cfg l).refines_run (N := scanSystem cfg)
    (R := Linked l) (fun _ _ e h => h.step cfg e) (linked_start l booted) es
  refine ⟨es', ⟨hlinked.host, hlinked.phone, hout⟩, fun more' => ?_⟩
  obtain ⟨more, hlast, hmore⟩ := (scanSystem cfg).refines_run (N := linkSystem cfg l)
    (R := fun t s => Linked l s t) (fun _ _ e h => h.queue_step cfg e) hlinked more'
  refine ⟨more, ?_⟩
  rw [Machine.run_append, Machine.run_append]
  exact ⟨hlast.host, hlast.phone, by rw [hout, hmore]⟩

/-- The receive buffers of `sercomm.c`, on the host and on the phone. -/
def sercommLinks : ScanLinks where
  osmocon := ⟨2048, fun dlci => dlci = scDlciL1aL23⟩
  phone := ⟨256, fun dlci => dlci = scDlciL1aL23⟩
  osmocon_handler := by decide
  phone_handler := by decide
  osmocon_room := by decide
  phone_room := by decide

/-- The request for a reset crosses the links, and its confirmation starts the scanner. -/
def startUp : List (LinkEvent sercommLinks) :=
  [.uplink ⟨.inl (.inl (.inl .dequeue)), trivial, rfl⟩,
    .uplink ⟨.inl (.inl (.inr .toolRead)), ⟨trivial, rfl⟩, rfl⟩] ++
  List.replicate 18 (.uplink ⟨.inl (.inr .pull), ⟨⟨trivial, nofun⟩, rfl⟩, rfl⟩) ++
  List.replicate 18 (.uplink ⟨.inl (.inr .receive), ⟨⟨trivial, nofun⟩, rfl⟩, rfl⟩) ++
  [.uplink ⟨.inr .dequeue, ⟨trivial, rfl⟩, rfl⟩] ++
  List.replicate 18 (.downlink ⟨.inl .pull, ⟨trivial, nofun⟩, rfl⟩ {}) ++
  List.replicate 18 (.downlink ⟨.inl .receive, ⟨trivial, nofun⟩, rfl⟩ {}) ++
  [.downlink ⟨.inr .select, ⟨trivial, rfl⟩, rfl⟩ {}]

example : ((linkSystem {} sercommLinks).run (LinkSystem.start sercommLinks false)
    startUp).1.host.started = true := by
  decide +kernel

end ImsiCatcher

import ImsiCatcher.L1Socket

/-!
# The link between the phone and the layer 2 program

Each way is a cascade of stages that convey messages: to the layer 2 program the serial line and
the socket, to the phone the write queue, the socket, the serial line and the queue of the phone.
So is each way as a whole.
-/

namespace ImsiCatcher

theorem length_lengthPrefixed (msg : Octets) : (lengthPrefixed msg).length = msg.length + 2 := by
  rw [lengthPrefixed, List.length_append, length_htons, Nat.add_comm]

theorem ntohs_lengthPrefixed {msg : Octets} (hmsg : msg.length < 65536) (rest : Octets) :
    ntohs (lengthPrefixed msg ++ rest) 0 = msg.length := by
  rw [lengthPrefixed, List.append_assoc, ntohs_htons hmsg]

namespace Layer2Socket
variable {s : Layer2Socket} {items : List Octets}

/-- The socket holds whole messages, none longer than `layer2_read` takes. -/
structure Holds (s : Layer2Socket) (items : List Octets) : Prop where
  open_ : s.closed = false
  reading : s.reading = none
  incoming : s.incoming = items.flatMap lengthPrefixed
  fits : ∀ m ∈ items, m.length ≤ gsmL2Length

theorem holds_init : Holds {} [] := ⟨rfl, rfl, rfl, nofun⟩

def Allowed : SocketEvent → Prop
  | .hdlcToolCb msg => msg.length ≤ gsmL2Length
  | .select => True

def written : SocketEvent → List Octets
  | .hdlcToolCb msg => [msg]
  | .select => []

theorem select_nil (hs : s.Holds []) : s.step .select = (s, []) := by
  have hempty : s.incoming = [] := hs.incoming
  simp [step, hempty]

/-- `layer2_read` takes one message. -/
theorem select_cons {m : Octets} (hs : s.Holds (m :: items)) :
    s.step .select = ({ s with incoming := items.flatMap lengthPrefixed }, [m]) := by
  have hfits : m.length ≤ 256 := hs.fits m List.mem_cons_self
  have hincoming : s.incoming = lengthPrefixed m ++ items.flatMap lengthPrefixed := hs.incoming
  have hlong : ¬s.incoming.length < 2 := by
    rw [hincoming, List.length_append, length_lengthPrefixed]
    omega
  have hne : s.incoming ≠ [] := by
    rintro hnil
    rw [hnil] at hlong
    exact hlong (by decide)
  have hlen : ntohs s.incoming 0 = m.length := by
    rw [hincoming, ntohs_lengthPrefixed (by omega)]
  have hdrop : s.incoming.drop 2 = m ++ items.flatMap lengthPrefixed := by
    rw [hincoming]
    rfl
  have hfit : ¬gsmL2Length < m.length := not_lt.2 hfits
  have hread : s.layer2Read =
      ({ s with incoming := s.incoming.drop 2 } : Layer2Socket).readPayload m.length := by
    simp only [layer2Read, hs.reading, hlong, hlen, hfit, if_false]
  have hsome : ¬(m ++ items.flatMap lengthPrefixed = [] ∧ 0 < m.length) := by
    rintro ⟨hnil, hpos⟩
    rw [List.append_eq_nil_iff] at hnil
    simp [hnil.1] at hpos
  have hpayload : ({ s with incoming := s.incoming.drop 2 } : Layer2Socket).readPayload m.length =
      ({ s with incoming := items.flatMap lengthPrefixed }, [m]) := by
    simp only [readPayload, hdrop, hsome, if_false, List.take_left, List.drop_left, hs.reading]
    simp
  have hready : ¬(s.closed = true ∨ s.incoming = []) := by simp [hs.open_, hne]
  rw [step, if_neg hready, hread, hpayload]

theorem conveys : layer2Socket.Conveys Holds Allowed written fun m => [m] := by
  intro s items e hs hok
  cases e with
  | hdlcToolCb msg =>
    refine ⟨items ++ [msg], ⟨hs.open_, hs.reading, ?_, ?_⟩, rfl⟩
    · change s.incoming ++ lengthPrefixed msg = _
      rw [hs.incoming, List.flatMap_append, List.flatMap_singleton]
    · rw [List.forall_mem_append, List.forall_mem_singleton]
      exact ⟨hs.fits, hok⟩
  | select =>
    cases items with
    | nil =>
      change ∃ rest, Holds (s.step .select).1 rest ∧ (s.step .select).2.flatMap _ ++ rest = _
      rw [select_nil hs]
      exact ⟨[], hs, rfl⟩
    | cons m items =>
      change ∃ rest, Holds (s.step .select).1 rest ∧ (s.step .select).2.flatMap _ ++ rest = _
      rw [select_cons hs]
      have hfits := List.forall_mem_cons.1 hs.fits
      exact ⟨items, ⟨hs.open_, hs.reading, rfl, hfits.2⟩, (List.append_nil _).symm⟩

theorem drains : layer2Socket.Drains Holds Allowed written := by
  intro s items hs
  refine ⟨List.replicate items.length .select, fun e he => ?_, ?_⟩
  · rw [List.eq_of_mem_replicate he]
    exact ⟨trivial, rfl⟩
  · have hempty : (layer2Socket.run s (List.replicate items.length .select)).1.incoming = [] := by
      induction items generalizing s with
      | nil => exact hs.incoming
      | cons m items ih =>
        have hfits := List.forall_mem_cons.1 hs.fits
        have hrest : Holds (s.step .select).1 items := by
          rw [select_cons hs]
          exact ⟨hs.open_, hs.reading, rfl, hfits.2⟩
        exact ih _ hrest
    intro rest hrest
    cases rest with
    | nil => rfl
    | cons m rest =>
      have hincoming := hrest.incoming
      rw [hempty] at hincoming
      exact absurd hincoming nofun

end Layer2Socket

/-! ### To the layer 2 program -/

namespace Line
variable {cfg : SercommConfig}

def AllowedWith (cfg : SercommConfig) (P : Octets → Prop) (e : LineEvent) : Prop :=
  Allowed cfg e ∧ ∀ m ∈ sentOn scDlciL1aL23 e, P m

def HoldsWith (cfg : SercommConfig) (P : Octets → Prop) (s : Line) (items : List Octets) : Prop :=
  Holds cfg scDlciL1aL23 s items ∧ ∀ m ∈ items, P m

theorem conveys_with (hd : cfg.dlciHandler scDlciL1aL23 = true) (P : Octets → Prop) :
    (serialLine cfg).Conveys (HoldsWith cfg P) (AllowedWith cfg P) (sentOn scDlciL1aL23)
      (onDlci scDlciL1aL23) := by
  have hconveys : (serialLine cfg).Conveys (Holds cfg scDlciL1aL23) (AllowedWith cfg P)
      (sentOn scDlciL1aL23) (onDlci scDlciL1aL23) :=
    fun s items e hs hok => conveys hd s items e hs hok.1
  exact hconveys.restrict fun e hok => hok.2

theorem drains_with (cfg : SercommConfig) (P : Octets → Prop) :
    (serialLine cfg).Drains (HoldsWith cfg P) (AllowedWith cfg P) (sentOn scDlciL1aL23) := by
  intro s items hs
  obtain ⟨n, m, hdrained⟩ := exists_drained cfg s hs.1.begun
  refine ⟨driven n m, fun e he => ?_, fun rest hrest => holds_drained hrest.1 hdrained⟩
  rcases mem_driven he with rfl | rfl <;> exact ⟨⟨trivial, nofun⟩, rfl⟩

end Line

def FitsLayer2 (m : Octets) : Prop := m.length ≤ gsmL2Length

def toLayer2 (o : UInt8 × Octets) : List SocketEvent :=
  if o.1 = scDlciL1aL23 then [.hdlcToolCb o.2] else []

def downlink (cfg : SercommConfig) : Machine (Line × Layer2Socket) (LineEvent ⊕ SocketEvent)
    Octets :=
  (serialLine cfg).cascade layer2Socket toLayer2

/-- What `l1_queue_for_l2` sends fits into the buffer of the layer 2 program. -/
def DownlinkAllowed (cfg : SercommConfig) : LineEvent ⊕ SocketEvent → Prop :=
  Sum.elim (Line.AllowedWith cfg FitsLayer2) fun e =>
    Layer2Socket.Allowed e ∧ Layer2Socket.written e = []

def downlinkSent : LineEvent ⊕ SocketEvent → List Octets :=
  Sum.elim (Line.sentOn scDlciL1aL23) fun _ => []

def DownlinkHolds (cfg : SercommConfig) : Line × Layer2Socket → List Octets → Prop :=
  Machine.HoldsBoth (Line.HoldsWith cfg FitsLayer2) Layer2Socket.Holds

theorem downlink_conveys {cfg : SercommConfig} (hd : cfg.dlciHandler scDlciL1aL23 = true) :
    (downlink cfg).Conveys (DownlinkHolds cfg) (DownlinkAllowed cfg) downlinkSent
      fun m => [m] := by
  have hline := Line.conveys_with hd FitsLayer2
  refine hline.cascade Layer2Socket.conveys (fun o => ?_) fun s items e hs hok o ho e' he' => ?_
  · by_cases hdlci : o.1 = scDlciL1aL23 <;>
      simp [toLayer2, Line.onDlci, Layer2Socket.written, hdlci]
  · have hfits := hline.forall_get (fun _ hok => hok.2) hs hs.2 hok o ho
    by_cases hdlci : o.1 = scDlciL1aL23
    · rw [toLayer2, if_pos hdlci, List.mem_singleton] at he'
      rw [Line.onDlci, if_pos hdlci, List.forall_mem_singleton] at hfits
      exact he' ▸ hfits
    · simp [toLayer2, hdlci] at he'

theorem downlinkHolds_init (cfg : SercommConfig) : DownlinkHolds cfg ({}, {}) [] :=
  ⟨[], [], ⟨Line.holds_init, nofun⟩, Layer2Socket.holds_init, rfl⟩

/-- What reaches `l1ctl_recv` is what the phone sent to the layer 2 program, in order and each
message once, in every order of the steps of the phone, of `osmocon` and of the program; and some
more steps bring all of it there. -/
theorem downlink_delivers (cfg : SercommConfig) (hd : cfg.dlciHandler scDlciL1aL23 = true)
    (es : List (LineEvent ⊕ SocketEvent)) (hes : ∀ e ∈ es, DownlinkAllowed cfg e) :
    ((downlink cfg).run ({}, {}) es).2 <+: es.flatMap downlinkSent ∧
      ∃ more, (∀ e ∈ more, DownlinkAllowed cfg e ∧ downlinkSent e = []) ∧
        ((downlink cfg).run ({}, {}) (es ++ more)).2 = es.flatMap downlinkSent := by
  have hconveys := downlink_conveys hd
  have hinit := downlinkHolds_init cfg
  have hsafe := hconveys.prefix_run hinit hes
  have hdrains := (Line.drains_with cfg FitsLayer2).cascade Layer2Socket.drains hconveys
  obtain ⟨more, hmore, hall⟩ := hconveys.exists_complete hdrains hinit hes
  simp only [List.flatMap_singleton'] at hsafe hall
  exact ⟨hsafe, more, hmore, hall⟩

def downlinkSteps : List (LineEvent ⊕ SocketEvent) :=
  [.inl (.send 5 [0x7e, 1]), .inl .pull, .inl (.send 4 [0]), .inl .receive, .inr .select]

theorem downlink_delivers_one :
    ((downlink smallBuffer).run ({}, {}) downlinkSteps).2 <+: downlinkSteps.flatMap downlinkSent ∧
      ∃ more, (∀ e ∈ more, DownlinkAllowed smallBuffer e ∧ downlinkSent e = []) ∧
        ((downlink smallBuffer).run ({}, {}) (downlinkSteps ++ more)).2 =
          downlinkSteps.flatMap downlinkSent := by
  refine downlink_delivers smallBuffer rfl downlinkSteps ?_
  have hfits : FitsLayer2 [0x7e, 1] := Nat.le_of_ble_eq_true rfl
  simp only [downlinkSteps, List.forall_mem_cons]
  exact ⟨⟨⟨by decide, by decide, by decide⟩, List.forall_mem_singleton.2 hfits⟩,
    ⟨trivial, nofun⟩, ⟨⟨by decide, by decide, by decide⟩, nofun⟩, ⟨trivial, nofun⟩,
    ⟨trivial, rfl⟩, nofun⟩

/-! ### To the phone -/

namespace ToolSocket
variable {cfg : SercommConfig} {incoming : Octets} {items : List Octets}

/-- A message that `osmocon` passes on and the phone has room for. -/
def FitsPhone (cfg : SercommConfig) (m : Octets) : Prop :=
  m.length ≤ 512 ∧ m.length < cfg.rxMsgSize

structure Holds (cfg : SercommConfig) (incoming : Octets) (items : List Octets) : Prop where
  incoming : incoming = items.flatMap lengthPrefixed
  fits : ∀ m ∈ items, FitsPhone cfg m

def Framed (cfg : SercommConfig) (octets : Octets) : Prop :=
  octets = lengthPrefixed (octets.drop 2) ∧ FitsPhone cfg (octets.drop 2)

def Allowed (cfg : SercommConfig) : ToolEvent → Prop
  | .arrive octets => Framed cfg octets
  | .toolRead => True

def arrived : ToolEvent → List Octets
  | .arrive octets => [octets.drop 2]
  | .toolRead => []

/-- `un_tool_read` takes one message. -/
theorem toolRead_cons {m : Octets} (hs : Holds cfg incoming (m :: items)) :
    unToolRead incoming = (items.flatMap lengthPrefixed, [m]) := by
  have hfits : m.length ≤ 512 := (hs.fits m List.mem_cons_self).1
  have hincoming : incoming = lengthPrefixed m ++ items.flatMap lengthPrefixed := hs.incoming
  have hlong : ¬incoming.length < 2 := by
    rw [hincoming, List.length_append, length_lengthPrefixed]
    omega
  have hlen : ntohs incoming 0 = m.length := by
    rw [hincoming, ntohs_lengthPrefixed (by omega)]
  have hdrop : incoming.drop 2 = m ++ items.flatMap lengthPrefixed := by
    rw [hincoming]
    rfl
  have hwhole : ¬(m ++ items.flatMap lengthPrefixed).length < m.length := by
    rw [List.length_append]
    omega
  have hsmall : ¬512 < m.length := not_lt.2 hfits
  simp only [unToolRead, hlong, hlen, hdrop, hwhole, hdlcSendToPhone, hsmall, if_false,
    List.take_left, List.drop_left]

theorem toolRead_nil : unToolRead [] = ([], []) := rfl

theorem conveys (cfg : SercommConfig) :
    toolSocket.Conveys (Holds cfg) (Allowed cfg) arrived fun m => [m] := by
  intro incoming items e hs hok
  cases e with
  | arrive octets =>
    refine ⟨items ++ [octets.drop 2], ⟨?_, ?_⟩, rfl⟩
    · change incoming ++ octets = _
      rw [hs.incoming, List.flatMap_append, List.flatMap_singleton, ← hok.1]
    · rw [List.forall_mem_append, List.forall_mem_singleton]
      exact ⟨hs.fits, hok.2⟩
  | toolRead =>
    change ∃ rest, Holds cfg (unToolRead incoming).1 rest ∧
      (unToolRead incoming).2.flatMap _ ++ rest = items ++ []
    cases items with
    | nil =>
      have hempty : incoming = [] := hs.incoming
      rw [hempty, toolRead_nil]
      exact ⟨[], ⟨rfl, nofun⟩, rfl⟩
    | cons m items =>
      rw [toolRead_cons hs]
      have hfits := List.forall_mem_cons.1 hs.fits
      exact ⟨items, ⟨rfl, hfits.2⟩, (List.append_nil _).symm⟩

theorem drains (cfg : SercommConfig) : toolSocket.Drains (Holds cfg) (Allowed cfg) arrived := by
  intro incoming items hs
  refine ⟨List.replicate items.length .toolRead, fun e he => ?_, ?_⟩
  · rw [List.eq_of_mem_replicate he]
    exact ⟨trivial, rfl⟩
  · have hempty : (toolSocket.run incoming (List.replicate items.length .toolRead)).1 = [] := by
      induction items generalizing incoming with
      | nil => exact hs.incoming
      | cons m items ih =>
        have hfits := List.forall_mem_cons.1 hs.fits
        have hrest : Holds cfg (unToolRead incoming).1 items := by
          rw [toolRead_cons hs]
          exact ⟨rfl, hfits.2⟩
        exact ih _ hrest
    intro rest hrest
    cases rest with
    | nil => rfl
    | cons m rest =>
      have hincoming := hrest.incoming
      rw [hempty] at hincoming
      exact absurd hincoming nofun

end ToolSocket

/-- The write queue of the layer 2 program and the socket of `osmocon`. -/
def toOsmocon : Machine (List Octets × Octets) (Machine.QueueEvent Octets ⊕ ToolEvent) Octets :=
  Machine.queue.cascade toolSocket fun octets => [.arrive octets]

def OsmoconHolds (cfg : SercommConfig) : List Octets × Octets → List Octets → Prop :=
  Machine.HoldsBoth (Machine.QueueHolds (ToolSocket.Framed cfg) (List.drop 2))
    (ToolSocket.Holds cfg)

def OsmoconAllowed (cfg : SercommConfig) : Machine.QueueEvent Octets ⊕ ToolEvent → Prop :=
  Sum.elim (Machine.QueueAllowed (ToolSocket.Framed cfg)) fun e =>
    ToolSocket.Allowed cfg e ∧ ToolSocket.arrived e = []

def osmoconSent : Machine.QueueEvent Octets ⊕ ToolEvent → List Octets :=
  Sum.elim (Machine.enqueued (List.drop 2)) fun _ => []

theorem osmoconSent_fits {cfg : SercommConfig} {e : Machine.QueueEvent Octets ⊕ ToolEvent}
    (hok : OsmoconAllowed cfg e) : ∀ m ∈ osmoconSent e, ToolSocket.FitsPhone cfg m := by
  rcases e with (octets | _) | e
  · exact List.forall_mem_singleton.2 (And.right hok)
  · exact nofun
  · exact nofun

theorem toOsmocon_conveys (cfg : SercommConfig) :
    toOsmocon.Conveys (OsmoconHolds cfg) (OsmoconAllowed cfg) osmoconSent fun m => [m] := by
  refine (Machine.queue_conveys _ _).cascade (ToolSocket.conveys cfg) (fun _ => rfl) ?_
  intro q items e hq _ octets hout e' he'
  rw [List.mem_singleton.1 he']
  exact Machine.queue_forall_out _ _ hq e octets hout

theorem toOsmocon_drains (cfg : SercommConfig) :
    toOsmocon.Drains (OsmoconHolds cfg) (OsmoconAllowed cfg) osmoconSent :=
  (Machine.queue_drains _ _).cascade (ToolSocket.drains cfg) (toOsmocon_conveys cfg)

/-- Up to the receiver of the phone. -/
def toPhone (cfg : SercommConfig) :
    Machine ((List Octets × Octets) × Line)
      ((Machine.QueueEvent Octets ⊕ ToolEvent) ⊕ LineEvent) (UInt8 × Octets) :=
  toOsmocon.cascade (serialLine cfg) fun m => [.send scDlciL1aL23 m]

/-- `l1a_l23_rx` queues what comes on its DLCI, and `l1a_l23_handler` takes one message. -/
def uplink (cfg : SercommConfig) :
    Machine (((List Octets × Octets) × Line) × List Octets)
      (((Machine.QueueEvent Octets ⊕ ToolEvent) ⊕ LineEvent) ⊕ Machine.QueueEvent Octets) Octets :=
  (toPhone cfg).cascade Machine.queue fun o =>
    if o.1 = scDlciL1aL23 then [.enqueue o.2] else []

section Uplink
variable (cfg : SercommConfig)

def anything (_ : Octets) : Prop := True

def PhoneHolds : (List Octets × Octets) × Line → List Octets → Prop :=
  Machine.HoldsBoth
    (fun s items => OsmoconHolds cfg s items ∧ ∀ m ∈ items, ToolSocket.FitsPhone cfg m)
    (Line.HoldsWith cfg anything)

def PhoneAllowed : (Machine.QueueEvent Octets ⊕ ToolEvent) ⊕ LineEvent → Prop :=
  Sum.elim (OsmoconAllowed cfg) fun e =>
    Line.AllowedWith cfg anything e ∧ Line.sentOn scDlciL1aL23 e = []

def phoneSent : (Machine.QueueEvent Octets ⊕ ToolEvent) ⊕ LineEvent → List Octets :=
  Sum.elim osmoconSent fun _ => []

theorem sendable_of_fits {m : Octets} (hm : ToolSocket.FitsPhone cfg m) :
    Sendable cfg scDlciL1aL23 m :=
  ⟨by decide, by decide, hm.2⟩

theorem toOsmocon_conveys_fits :
    toOsmocon.Conveys
      (fun s items => OsmoconHolds cfg s items ∧ ∀ m ∈ items, ToolSocket.FitsPhone cfg m)
      (OsmoconAllowed cfg) osmoconSent fun m => [m] :=
  (toOsmocon_conveys cfg).restrict fun _ hok => osmoconSent_fits hok

variable {cfg} (hd : cfg.dlciHandler scDlciL1aL23 = true)
include hd

theorem toPhone_conveys :
    (toPhone cfg).Conveys (PhoneHolds cfg) (PhoneAllowed cfg) phoneSent
      (Line.onDlci scDlciL1aL23) := by
  have hosmocon := toOsmocon_conveys_fits cfg
  refine hosmocon.cascade (Line.conveys_with hd anything) (fun m => ?_)
    fun s items e hs hok m hm e' he' => ?_
  · simp [Line.sentOn, Line.onDlci]
  · have hfits := hosmocon.forall_get (fun _ hok => osmoconSent_fits hok) hs hs.2 hok m hm m
      List.mem_cons_self
    rw [List.mem_singleton.1 he']
    exact ⟨sendable_of_fits cfg hfits, fun _ _ => trivial⟩

theorem toPhone_drains : (toPhone cfg).Drains (PhoneHolds cfg) (PhoneAllowed cfg) phoneSent := by
  have hdrains : toOsmocon.Drains
      (fun s items => OsmoconHolds cfg s items ∧ ∀ m ∈ items, ToolSocket.FitsPhone cfg m)
      (OsmoconAllowed cfg) osmoconSent := by
    intro s items hs
    obtain ⟨es, hes, hlast⟩ := toOsmocon_drains cfg s items hs.1
    exact ⟨es, hes, fun rest hrest => hlast rest hrest.1⟩
  exact hdrains.cascade (Line.drains_with cfg anything) (toPhone_conveys hd)

end Uplink

def UplinkAllowed (cfg : SercommConfig) :
    ((Machine.QueueEvent Octets ⊕ ToolEvent) ⊕ LineEvent) ⊕ Machine.QueueEvent Octets → Prop :=
  Sum.elim (PhoneAllowed cfg) fun e =>
    Machine.QueueAllowed anything e ∧ Machine.enqueued id e = []

def uplinkSent :
    ((Machine.QueueEvent Octets ⊕ ToolEvent) ⊕ LineEvent) ⊕ Machine.QueueEvent Octets →
      List Octets :=
  Sum.elim phoneSent fun _ => []

def UplinkHolds (cfg : SercommConfig) :
    ((List Octets × Octets) × Line) × List Octets → List Octets → Prop :=
  Machine.HoldsBoth (PhoneHolds cfg) (Machine.QueueHolds anything id)

theorem uplink_conveys {cfg : SercommConfig} (hd : cfg.dlciHandler scDlciL1aL23 = true) :
    (uplink cfg).Conveys (UplinkHolds cfg) (UplinkAllowed cfg) uplinkSent fun m => [m] := by
  refine (toPhone_conveys hd).cascade (Machine.queue_conveys anything id) (fun o => ?_)
    fun _ _ _ _ _ o _ e' he' => ?_
  · by_cases hdlci : o.1 = scDlciL1aL23 <;> simp [Line.onDlci, Machine.enqueued, hdlci]
  · by_cases hdlci : o.1 = scDlciL1aL23
    · rw [if_pos hdlci, List.mem_singleton] at he'
      exact he' ▸ trivial
    · simp [hdlci] at he'

theorem uplinkHolds_init (cfg : SercommConfig) : UplinkHolds cfg ((([], []), {}), []) [] := by
  have hosmocon : OsmoconHolds cfg ([], []) [] :=
    ⟨[], [], ⟨rfl, List.forall_mem_nil _⟩, ⟨rfl, List.forall_mem_nil _⟩, rfl⟩
  have hphone : PhoneHolds cfg (([], []), {}) [] :=
    ⟨[], [], ⟨hosmocon, List.forall_mem_nil _⟩, ⟨Line.holds_init, List.forall_mem_nil _⟩, rfl⟩
  exact ⟨[], [], hphone, ⟨rfl, List.forall_mem_nil _⟩, rfl⟩

/-- What `l1a_l23_handler` takes on the phone is what the layer 2 program gave to `osmo_send_l1`,
in order and each message once, in every order of the steps of the program, of `osmocon` and of
the phone; and some more steps bring all of it there. -/
theorem uplink_delivers (cfg : SercommConfig) (hd : cfg.dlciHandler scDlciL1aL23 = true)
    (es : List (((Machine.QueueEvent Octets ⊕ ToolEvent) ⊕ LineEvent) ⊕
      Machine.QueueEvent Octets)) (hes : ∀ e ∈ es, UplinkAllowed cfg e) :
    ((uplink cfg).run ((([], []), {}), []) es).2 <+: es.flatMap uplinkSent ∧
      ∃ more, (∀ e ∈ more, UplinkAllowed cfg e ∧ uplinkSent e = []) ∧
        ((uplink cfg).run ((([], []), {}), []) (es ++ more)).2 = es.flatMap uplinkSent := by
  have hconveys := uplink_conveys hd
  have hinit := uplinkHolds_init cfg
  have hsafe := hconveys.prefix_run hinit hes
  have hdrains := (toPhone_drains hd).cascade (Machine.queue_drains anything id) hconveys
  obtain ⟨more, hmore, hall⟩ := hconveys.exists_complete hdrains hinit hes
  simp only [List.flatMap_singleton'] at hsafe hall
  exact ⟨hsafe, more, hmore, hall⟩

def uplinkSteps :
    List (((Machine.QueueEvent Octets ⊕ ToolEvent) ⊕ LineEvent) ⊕ Machine.QueueEvent Octets) :=
  [.inl (.inl (.inl (.enqueue (lengthPrefixed [13, 0, 0, 0])))), .inl (.inl (.inl .dequeue)),
    .inl (.inl (.inr .toolRead)), .inl (.inr (.send 4 [0])), .inr .dequeue]

theorem uplink_delivers_one :
    ((uplink smallBuffer).run ((([], []), {}), []) uplinkSteps).2 <+:
        uplinkSteps.flatMap uplinkSent ∧
      ∃ more, (∀ e ∈ more, UplinkAllowed smallBuffer e ∧ uplinkSent e = []) ∧
        ((uplink smallBuffer).run ((([], []), {}), []) (uplinkSteps ++ more)).2 =
          uplinkSteps.flatMap uplinkSent := by
  refine uplink_delivers smallBuffer rfl uplinkSteps ?_
  simp only [uplinkSteps, List.forall_mem_cons]
  exact ⟨⟨rfl, by decide, by decide⟩, trivial, ⟨trivial, rfl⟩,
    ⟨⟨⟨by decide, by decide, by decide⟩, fun _ _ => trivial⟩, rfl⟩, ⟨trivial, rfl⟩, nofun⟩

end ImsiCatcher

import ImsiCatcher.Conveyor
import ImsiCatcher.SercommFrames
import Mathlib.Algebra.BigOperators.Group.Finset.Basic
import Mathlib.Algebra.GroupWithZero.Nat

/-!
# Two ends of the serial line

One end queues messages and hands octets to its driver, the other one takes octets from its own
driver, in any order of these steps. The wire between them keeps the order of the octets. For
each DLCI the line conveys messages: what the far end dispatches is what was sent, in order.
-/

namespace ImsiCatcher

namespace SercommTx
variable {t : SercommTx}

/-- The octets that are still to come of the message that is being sent. -/
def pending (t : SercommTx) : Octets :=
  match t.msg with
  | none => []
  | some chars =>
    if t.state = .escape then chars.take 1 ++ (hdlc.stuff (chars.drop 1) ++ [hdlcFlag])
    else hdlc.stuff chars ++ [hdlcFlag]

/-- Behind an escape there is an octet. -/
def Begun (t : SercommTx) : Prop := t.state = .escape → ∃ ch rest, t.msg = some (ch :: rest)

theorem begun_init : ({} : SercommTx).Begun := nofun

theorem nextQueue_eq_none (h : t.nextQueue = none) {i : ℕ} (hi : i < scDlciMax) :
    t.dlciQueues i = [] := by
  have hall := List.find?_eq_none.1 h i (List.mem_range.2 hi)
  simpa using hall

theorem nextQueue_eq_some {i : ℕ} (h : t.nextQueue = some i) :
    ∃ msg rest, t.dlciQueues i = msg :: rest := by
  have hne : t.dlciQueues i ≠ [] := by simpa using List.find?_some h
  exact List.exists_cons_of_ne_nil hne

/-- The next octet of a message that is being sent. -/
theorem pull_begun (ht : t.Begun) {chars : Octets} (hmsg : t.msg = some chars) :
    ∃ ch, t.sercommDrvPull.2 = some ch ∧ t.pending = ch :: t.sercommDrvPull.1.pending ∧
      t.sercommDrvPull.1.dlciQueues = t.dlciQueues ∧ t.sercommDrvPull.1.Begun := by
  by_cases hstate : t.state = .escape
  · obtain ⟨ch, rest, hchars⟩ := ht hstate
    refine ⟨ch, ?_⟩
    simp [sercommDrvPull, pending, Begun, hchars, hstate]
  · cases chars with
    | nil =>
      refine ⟨hdlcFlag, ?_⟩
      simp [sercommDrvPull, pending, Begun, hmsg, hstate]
    | cons ch rest =>
      cases hch : hdlc.marked ch with
      | true =>
        have hor : ch = hdlcFlag ∨ ch = hdlcEscape ∨ ch = 0x00 := of_decide_eq_true hch
        refine ⟨hdlcEscape, ?_⟩
        simp only [sercommDrvPull, hmsg, hstate, hor, pending, Begun, hdlc.stuff_marked hch,
          if_true, if_false]
        simp [hdlc]
      | false =>
        have hnor : ¬(ch = hdlcFlag ∨ ch = hdlcEscape ∨ ch = 0x00) := of_decide_eq_false hch
        refine ⟨ch, ?_⟩
        simp only [sercommDrvPull, hmsg, hstate, hnor, pending, Begun, hdlc.stuff_unmarked hch,
          if_false]
        simp

theorem pull_idle (hmsg : t.msg = none) (hqueue : t.nextQueue = none) :
    t.sercommDrvPull = (t, none) := by
  simp [sercommDrvPull, hmsg, hqueue]

/-- A flag goes out before the first message of the first queue. -/
theorem pull_next (hmsg : t.msg = none) {i : ℕ} (hqueue : t.nextQueue = some i) {msg : Octets}
    {rest : List Octets} (hi : t.dlciQueues i = msg :: rest) :
    t.sercommDrvPull = ({ t with
      dlciQueues := fun j => if j = i then (t.dlciQueues j).tail else t.dlciQueues j
      msg := some msg }, some hdlcFlag) := by
  simp [sercommDrvPull, hmsg, hqueue, hi]

end SercommTx

structure Line where
  tx : SercommTx := {}
  wire : Octets := []
  rx : SercommRx := {}

inductive LineEvent where
  | send (dlci : UInt8) (msg : Octets)
  | pull
  | receive

namespace Line

def step (cfg : SercommConfig) (s : Line) : LineEvent → Line × List (UInt8 × Octets)
  | .send dlci msg => ({ s with tx := s.tx.sercommSendmsg dlci msg }, [])
  | .pull =>
    let r := s.tx.sercommDrvPull
    ({ s with tx := r.1, wire := s.wire ++ r.2.toList }, [])
  | .receive =>
    match s.wire with
    | [] => (s, [])
    | ch :: wire =>
      let r := s.rx.sercommDrvRxChar cfg ch
      ({ s with wire := wire, rx := r.1 }, r.2)

/-- What is to be sent can be sent. -/
def Allowed (cfg : SercommConfig) : LineEvent → Prop
  | .send dlci msg => Sendable cfg dlci msg
  | _ => True

def onDlci (d : UInt8) (o : UInt8 × Octets) : List Octets := if o.1 = d then [o.2] else []

def sentOn (d : UInt8) : LineEvent → List Octets
  | .send dlci msg => onDlci d (dlci, msg)
  | _ => []

/-- The octets between the two ends, on the wire or still in the message that is being sent. -/
def ahead (s : Line) : Octets := s.wire ++ s.tx.pending

/-- What the line holds for a DLCI: the messages whose octets are ahead of the receiver, and
those of the queue. -/
structure Holds (cfg : SercommConfig) (d : UInt8) (s : Line) (items : List Octets) : Prop where
  begun : s.tx.Begun
  queued : ∀ i, ∀ m ∈ s.tx.dlciQueues i, ∃ dlci msg, m = dlci :: hdlcCUi :: msg ∧
    dlci.toNat = i ∧ Sendable cfg dlci msg
  synced : ((sercommRx cfg).run s.rx s.ahead).1.Idle
  items : items = ((sercommRx cfg).run s.rx s.ahead).2.flatMap (onDlci d) ++
    (s.tx.dlciQueues d.toNat).map (List.drop 2)

end Line

def serialLine (cfg : SercommConfig) : Machine Line LineEvent (UInt8 × Octets) :=
  ⟨Line.step cfg⟩

namespace Line
variable {cfg : SercommConfig} {d : UInt8} {s : Line} {items : List Octets}

theorem holds_init : Holds cfg d {} [] :=
  ⟨SercommTx.begun_init, nofun, SercommRx.idle_init, rfl⟩

theorem holds_send (hs : Holds cfg d s items) {dlci : UInt8} {msg : Octets}
    (h : Sendable cfg dlci msg) :
    Holds cfg d { s with tx := s.tx.sercommSendmsg dlci msg }
      (items ++ onDlci d (dlci, msg)) where
  begun := hs.begun
  queued i m hm := by
    simp only [SercommTx.sercommSendmsg] at hm
    split at hm
    · next hi =>
      rcases List.mem_append.1 hm with hm | hm
      · exact hs.queued i m hm
      · exact ⟨dlci, msg, List.mem_singleton.1 hm, hi.symm, h⟩
    · exact hs.queued i m hm
  synced := hs.synced
  items := by
    have hahead : ahead { s with tx := s.tx.sercommSendmsg dlci msg } = s.ahead := rfl
    rw [hahead, hs.items, List.append_assoc]
    refine congrArg _ ?_
    by_cases hd : dlci = d
    · simp [SercommTx.sercommSendmsg, onDlci, hd]
    · have hne : d.toNat ≠ dlci.toNat := fun heq => hd (UInt8.toNat_inj.1 heq).symm
      simp [SercommTx.sercommSendmsg, onDlci, hd, hne]

theorem flatMap_dispatchRxMsg {dlci : UInt8} {msg : Octets} (h : Sendable cfg dlci msg)
    (hd : cfg.dlciHandler d = true) :
    (dispatchRxMsg cfg dlci msg).flatMap (onDlci d) = onDlci d (dlci, msg) := by
  by_cases hdlci : dlci = d
  · have hlt : ¬scDlciMax ≤ d.toNat := by have := hdlci ▸ h.lt; omega
    simp [dispatchRxMsg, hdlci, hd, hlt]
  · unfold dispatchRxMsg
    split <;> simp [onDlci, hdlci]

/-- The first message of a queue becomes a frame on the line. -/
theorem holds_pull_next (hd : cfg.dlciHandler d = true) (hs : Holds cfg d s items)
    (hmsg : s.tx.msg = none) {i : ℕ} (hqueue : s.tx.nextQueue = some i) :
    Holds cfg d (s.step cfg .pull).1 items := by
  obtain ⟨m, rest, hi⟩ := SercommTx.nextQueue_eq_some hqueue
  have hm : m ∈ s.tx.dlciQueues i := hi ▸ List.mem_cons_self
  obtain ⟨dlci, msg, hmeq, hdlci, hsend⟩ := hs.queued i m hm
  have hstate : s.tx.state ≠ .escape := by
    intro hesc
    obtain ⟨ch, chars, hsome⟩ := hs.begun hesc
    simp [hmsg] at hsome
  set t : SercommTx := { s.tx with
    dlciQueues := fun j => if j = i then (s.tx.dlciQueues j).tail else s.tx.dlciQueues j
    msg := some m } with ht
  have hstep : (s.step cfg .pull).1 = { s with tx := t, wire := s.wire ++ [hdlcFlag] } := by
    simp only [step, SercommTx.pull_next hmsg hqueue hi, Option.toList_some, ht]
  have hahead : s.ahead = s.wire := by simp [ahead, SercommTx.pending, hmsg]
  have hframe : ahead { s with tx := t, wire := s.wire ++ [hdlcFlag] } =
      s.ahead ++ hdlcFrame dlci msg := by
    have hpending : t.pending = hdlc.stuff (dlci :: hdlcCUi :: msg) ++ [hdlcFlag] := by
      simp [ht, SercommTx.pending, hstate, hmeq]
    rw [hahead, ahead, hpending, hdlcFrame, List.append_assoc]
    rfl
  have hrun := SercommRx.run_frame hs.synced hsend
  rw [hstep]
  refine ⟨fun hesc => absurd hesc hstate, fun j m' hm' => ?_, ?_, ?_⟩
  · simp only [ht] at hm'
    split at hm'
    · exact hs.queued j m' (List.mem_of_mem_tail hm')
    · exact hs.queued j m' hm'
  · rw [hframe, Machine.run_append, hrun]
    exact ⟨rfl, rfl⟩
  · rw [hframe, Machine.run_append, hrun, List.flatMap_append,
      flatMap_dispatchRxMsg hsend hd, hs.items, List.append_assoc]
    refine congrArg _ ?_
    by_cases hdd : dlci = d
    · have hid : d.toNat = i := by rw [← hdlci, hdd]
      simp [ht, onDlci, hdd, hid, hi, hmeq]
    · have hid : d.toNat ≠ i := fun heq => hdd (UInt8.toNat_inj.1 (hdlci.trans heq.symm))
      simp [ht, onDlci, hdd, hid]

theorem holds_pull (hd : cfg.dlciHandler d = true) (hs : Holds cfg d s items) :
    Holds cfg d (s.step cfg .pull).1 items := by
  cases hmsg : s.tx.msg with
  | some chars =>
    obtain ⟨ch, hout, hpending, hqueues, hbegun⟩ := SercommTx.pull_begun hs.begun hmsg
    have hahead : ahead { s with tx := s.tx.sercommDrvPull.1, wire := s.wire ++ [ch] } =
        s.ahead := by
      rw [ahead, ahead, hpending, List.append_assoc]
      rfl
    have hstep : (s.step cfg .pull).1 =
        { s with tx := s.tx.sercommDrvPull.1, wire := s.wire ++ [ch] } := by
      simp only [step, hout, Option.toList_some]
    rw [hstep]
    refine ⟨hbegun, fun i m hm => hs.queued i m (hqueues ▸ hm), ?_, ?_⟩
    · rw [hahead]
      exact hs.synced
    · rw [hahead, hqueues]
      exact hs.items
  | none =>
    cases hqueue : s.tx.nextQueue with
    | none =>
      have hstep : (s.step cfg .pull).1 = s := by
        simp only [step, SercommTx.pull_idle hmsg hqueue, Option.toList_none, List.append_nil]
      rwa [hstep]
    | some i => exact holds_pull_next hd hs hmsg hqueue

theorem holds_receive (hs : Holds cfg d s items) :
    ∃ rest, Holds cfg d (s.step cfg .receive).1 rest ∧
      (s.step cfg .receive).2.flatMap (onDlci d) ++ rest = items := by
  cases hwire : s.wire with
  | nil =>
    have hstep : s.step cfg .receive = (s, []) := by simp [step, hwire]
    rw [hstep]
    exact ⟨items, hs, rfl⟩
  | cons ch wire =>
    have hstep : s.step cfg .receive =
        ({ s with wire := wire, rx := (s.rx.sercommDrvRxChar cfg ch).1 },
          (s.rx.sercommDrvRxChar cfg ch).2) := by simp [step, hwire]
    have hahead : s.ahead =
        ch :: ahead { s with wire := wire, rx := (s.rx.sercommDrvRxChar cfg ch).1 } := by
      rw [ahead, hwire]
      rfl
    have hsynced := hs.synced
    have hitems := hs.items
    rw [hahead, Machine.run_cons, sercommRx_step] at hsynced hitems
    rw [hstep]
    refine ⟨_, ⟨hs.begun, hs.queued, hsynced, rfl⟩, ?_⟩
    rw [hitems, List.flatMap_append, List.append_assoc]

/-- The line conveys the messages of each DLCI that has a handler. -/
theorem conveys (hd : cfg.dlciHandler d = true) :
    (serialLine cfg).Conveys (Holds cfg d) (Allowed cfg) (sentOn d) (onDlci d) := by
  intro s items e hs hok
  cases e with
  | send dlci msg => exact ⟨_, holds_send hs hok, rfl⟩
  | pull => exact ⟨items, holds_pull hd hs, (List.append_nil items).symm⟩
  | receive =>
    obtain ⟨rest, hrest, hout⟩ := holds_receive hs
    exact ⟨rest, hrest, hout.trans (List.append_nil items).symm⟩

def Drained (s : Line) : Prop :=
  s.wire = [] ∧ s.tx.msg = none ∧ ∀ i < scDlciMax, s.tx.dlciQueues i = []

theorem holds_drained (hs : Holds cfg d s items) (hdrained : s.Drained) :
    items = [] := by
  obtain ⟨hwire, hmsg, hqueues⟩ := hdrained
  have hahead : s.ahead = [] := by simp [ahead, SercommTx.pending, hwire, hmsg]
  have hqueue : s.tx.dlciQueues d.toNat = [] := by
    cases hq : s.tx.dlciQueues d.toNat with
    | nil => rfl
    | cons m rest =>
      have hm : m ∈ s.tx.dlciQueues d.toNat := hq ▸ List.mem_cons_self
      obtain ⟨dlci, msg, -, hdlci, hsend⟩ := hs.queued d.toNat m hm
      rw [hqueues d.toNat (hdlci ▸ hsend.lt)] at hq
      exact absurd hq nofun
  rw [hs.items, hahead, hqueue]
  rfl

end Line

/-! ### The line drains -/

namespace SercommTx
variable {t : SercommTx}

def weight (m : Octets) : ℕ := (hdlc.stuff m).length + 2

def load (t : SercommTx) : ℕ :=
  t.pending.length + ∑ i ∈ Finset.range scDlciMax, ((t.dlciQueues i).map weight).sum

theorem load_pull (ht : t.Begun) (hload : t.msg ≠ none ∨ t.nextQueue ≠ none) :
    t.sercommDrvPull.1.Begun ∧ t.load = t.sercommDrvPull.1.load + 1 := by
  cases hmsg : t.msg with
  | some chars =>
    obtain ⟨ch, -, hpending, hqueues, hbegun⟩ := pull_begun ht hmsg
    refine ⟨hbegun, ?_⟩
    rw [load, load, hpending, hqueues, List.length_cons]
    omega
  | none =>
    obtain ⟨i, hqueue⟩ := Option.ne_none_iff_exists'.1 (hload.resolve_left fun h => h hmsg)
    obtain ⟨m, rest, hi⟩ := nextQueue_eq_some hqueue
    have hstate : t.state ≠ .escape := by
      intro hesc
      obtain ⟨ch, chars, hsome⟩ := ht hesc
      simp [hmsg] at hsome
    have hmem : i ∈ Finset.range scDlciMax :=
      Finset.mem_range.2 (List.mem_range.1 (List.mem_of_find?_eq_some hqueue))
    rw [pull_next hmsg hqueue hi]
    refine ⟨fun hesc => absurd hesc hstate, ?_⟩
    have hothers : ∀ j ∈ (Finset.range scDlciMax).erase i,
        ((if j = i then (t.dlciQueues j).tail else t.dlciQueues j).map weight).sum =
          ((t.dlciQueues j).map weight).sum := by
      intro j hj
      rw [if_neg (Finset.ne_of_mem_erase hj)]
    simp only [load, pending, hmsg, hstate, if_false]
    rw [← Finset.add_sum_erase _ _ hmem, ← Finset.add_sum_erase _ _ hmem,
      Finset.sum_congr rfl hothers]
    simp only [weight, List.length_nil, List.length_append, List.length_singleton, List.map_cons,
      List.sum_cons, hi, if_true, List.tail_cons]
    omega

end SercommTx

namespace Line

theorem exists_pulls (cfg : SercommConfig) (s : Line) (hs : s.tx.Begun) : ∃ n,
    ((serialLine cfg).run s (List.replicate n .pull)).1.tx.msg = none ∧
      ∀ i < scDlciMax,
        ((serialLine cfg).run s (List.replicate n .pull)).1.tx.dlciQueues i = [] := by
  induction hload : s.tx.load using Nat.strong_induction_on generalizing s with
  | _ k ih =>
    by_cases hidle : s.tx.msg = none ∧ s.tx.nextQueue = none
    · exact ⟨0, hidle.1, fun i hi => SercommTx.nextQueue_eq_none hidle.2 hi⟩
    · rw [not_and_or] at hidle
      obtain ⟨hbegun, hless⟩ := SercommTx.load_pull hs hidle
      have hlt : (s.step cfg .pull).1.tx.load < k := by
        change s.tx.sercommDrvPull.1.load < k
        omega
      obtain ⟨n, hn⟩ := ih _ hlt (s.step cfg .pull).1 hbegun rfl
      exact ⟨n + 1, hn⟩

theorem exists_receives (cfg : SercommConfig) (s : Line) : ∃ n,
    ((serialLine cfg).run s (List.replicate n .receive)).1.wire = [] ∧
      ((serialLine cfg).run s (List.replicate n .receive)).1.tx = s.tx := by
  induction hwire : s.wire generalizing s with
  | nil => exact ⟨0, hwire, rfl⟩
  | cons ch wire ih =>
    have hstep : (s.step cfg .receive).1 =
        { s with wire := wire, rx := (s.rx.sercommDrvRxChar cfg ch).1 } := by simp [step, hwire]
    obtain ⟨n, hn⟩ := ih (s.step cfg .receive).1 (by rw [hstep])
    rw [show (s.step cfg .receive).1.tx = s.tx by rw [hstep]] at hn
    exact ⟨n + 1, hn⟩

def driven (n m : ℕ) : List LineEvent := List.replicate n .pull ++ List.replicate m .receive

theorem mem_driven {n m : ℕ} {e : LineEvent} (he : e ∈ driven n m) : e = .pull ∨ e = .receive := by
  rcases List.mem_append.1 he with he | he
  · exact Or.inl (List.eq_of_mem_replicate he)
  · exact Or.inr (List.eq_of_mem_replicate he)

/-- Enough steps of the two drivers bring everything to the far end. -/
theorem exists_drained (cfg : SercommConfig) (s : Line) (hs : s.tx.Begun) :
    ∃ n m, ((serialLine cfg).run s (driven n m)).1.Drained := by
  obtain ⟨n, hmsg, hqueues⟩ := exists_pulls cfg s hs
  obtain ⟨m, hwire, htx⟩ := exists_receives cfg
    ((serialLine cfg).run s (List.replicate n .pull)).1
  refine ⟨n, m, ?_⟩
  rw [driven, Machine.run_append]
  refine ⟨hwire, ?_, ?_⟩
  · rw [htx]
    exact hmsg
  · rw [htx]
    exact hqueues

end Line

/-- In every order of sending, pulling and receiving, the messages that the far end dispatches on
a DLCI are the first of those that were sent on it, in their order and each once; and enough steps
of the two drivers bring the others there too. -/
theorem serialLine_delivers (cfg : SercommConfig) (d : UInt8) (hd : cfg.dlciHandler d = true)
    (es : List LineEvent) (hes : ∀ e ∈ es, Line.Allowed cfg e) :
    ((serialLine cfg).run {} es).2.flatMap (Line.onDlci d) <+: es.flatMap (Line.sentOn d) ∧
      ∃ n m, ((serialLine cfg).run {} (es ++ Line.driven n m)).2.flatMap (Line.onDlci d) =
        es.flatMap (Line.sentOn d) := by
  have hconveys := Line.conveys hd
  refine ⟨hconveys.prefix_run Line.holds_init hes, ?_⟩
  obtain ⟨items, hitems, -⟩ := hconveys.run Line.holds_init hes
  obtain ⟨n, m, hdrained⟩ := Line.exists_drained cfg _ hitems.begun
  have hall : ∀ e ∈ es ++ Line.driven n m, Line.Allowed cfg e := by
    refine List.forall_mem_append.2 ⟨hes, fun e he => ?_⟩
    rcases Line.mem_driven he with rfl | rfl <;> trivial
  have hsilent : (Line.driven n m).flatMap (Line.sentOn d) = [] := by
    refine List.flatMap_eq_nil_iff.2 fun e he => ?_
    rcases Line.mem_driven he with rfl | rfl <;> rfl
  have hlast : ((serialLine cfg).run {} (es ++ Line.driven n m)).1.Drained := by
    rwa [Machine.run_append]
  refine ⟨n, m, ?_⟩
  rw [hconveys.drained_run Line.holds_init hall fun rest hrest => Line.holds_drained hrest hlast,
    List.flatMap_append, hsilent, List.append_nil]

def twoMessages : List LineEvent := [.send 5 [0x7e, 1], .pull, .send 4 [0], .receive]

theorem serialLine_delivers_two :
    ((serialLine smallBuffer).run {} twoMessages).2.flatMap (Line.onDlci 5) <+:
        twoMessages.flatMap (Line.sentOn 5) ∧
      ∃ n m,
        ((serialLine smallBuffer).run {} (twoMessages ++ Line.driven n m)).2.flatMap
            (Line.onDlci 5) = twoMessages.flatMap (Line.sentOn 5) := by
  refine serialLine_delivers smallBuffer 5 rfl twoMessages ?_
  simp only [twoMessages, List.forall_mem_cons]
  exact ⟨⟨by decide, by decide, by decide⟩, trivial, ⟨by decide, by decide, by decide⟩, trivial,
    nofun⟩

end ImsiCatcher

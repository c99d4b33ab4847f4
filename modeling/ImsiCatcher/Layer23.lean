import ImsiCatcher.Rsl

/-!
# The layer 2 program on the messages of the phone

What the octets of a message do to the scanner is what the events do that the message stands for,
so that every result about runs of the scanner is one about the messages that `l1ctl_recv` is
given.
-/

namespace ImsiCatcher

def L1Signal.event : L1Signal → Option CatcherEvent
  | pmRes bandArfcn rxLev => some (.pmRes bandArfcn rxLev)
  | pmDone => some .pmDone
  | fbsbResp _ _ bsic => some (.fbsbResp bsic)
  | fbsbErr _ => some .fbsbErr
  | reset => some .reset
  | ccchModeConf _ => none
  | phData dl data => some (.dataInd (scanChan dl.chanNr) dl.rxLevel dl.fireCrc.toNat data)
  | phRach fn msg =>
    some (.chanConf (rslIeReqReference :: gsm48ReqRef 0 (gsmFn2gsmtime fn) ++ msg.drop 1))

def L1Signal.Fits : L1Signal → Prop
  | phData _ data => data.length < 256
  | _ => True

/-- Only the channels that LAPDm passes up as they are reach the scanner. -/
theorem scanChan_eq_other {chanNr : UInt8} (h : ¬(chanNr >>> 3 = 0x10 ∨ chanNr >>> 3 = 0x12)) :
    scanChan chanNr = .other := by
  have hall : ∀ n : Fin 256, (UInt8.ofNat n >>> 3 = 0x10 ∨ UInt8.ofNat n >>> 3 = 0x12) ∨
      scanChan (UInt8.ofNat n) = .other := by
    decide +kernel
  have hthis := hall ⟨chanNr.toNat, chanNr.toNat_lt⟩
  rw [UInt8.ofNat_toNat] at hthis
  exact hthis.resolve_left h

theorem tlvpVal_l3Info {l3 : Octets} (hl3 : l3.length < 256) :
    tlvpVal (tlvParse rslAttTlvdef (rslIeL3Info :: htons (l3.length % 256) ++ l3)).1 rslIeL3Info =
      some 3 := by
  rw [Nat.mod_eq_of_lt hl3]
  exact tlvpVal_tl16v (by decide) (by decide) (by omega)

namespace Catcher
variable {cfg : CatcherConfig} {env : Surroundings} {c : Catcher}

/-- A frame that LAPDm packs into a unit data indication is the frame that is looked at. -/
theorem rcvRsl_unitDataInd {l3 : Octets} (hl3 : l3.length < 256) (chanNr linkId : UInt8) :
    c.rcvRsl cfg env (rslRllPushL3 rslMtUnitDataInd chanNr linkId l3) =
      c.unitDataInd cfg env (scanChan chanNr) l3 := by
  have hdiscr : octet (rslRllPushL3 rslMtUnitDataInd chanNr linkId l3) 0 &&& 0xfe =
      abisRslMdiscRll := by
    change (abisRslMdiscRll ||| abisRslMdiscTransp) &&& 0xfe = abisRslMdiscRll
    decide
  have htype : octet (rslRllPushL3 rslMtUnitDataInd chanNr linkId l3) 1 = rslMtUnitDataInd := rfl
  have hbody : (rslRllPushL3 rslMtUnitDataInd chanNr linkId l3).drop 6 =
      rslIeL3Info :: htons (l3.length % 256) ++ l3 := rfl
  rw [rcvRsl, if_pos hdiscr, rcvRll, if_pos htype, hbody, tlvpVal_l3Info hl3]
  rfl

theorem rcvRsl_chanConf (fn : ℕ) (msg : Octets) :
    c.rcvRsl cfg env (l2PhChanConf fn msg) =
      (c.chanConf (rslIeReqReference :: gsm48ReqRef 0 (gsmFn2gsmtime fn) ++ msg.drop 1), []) := by
  have hrll : ¬octet (l2PhChanConf fn msg) 0 &&& 0xfe = abisRslMdiscRll := by
    change ¬abisRslMdiscComChan &&& 0xfe = abisRslMdiscRll
    decide
  have hcch : octet (l2PhChanConf fn msg) 0 &&& 0xfe = abisRslMdiscComChan := by
    change abisRslMdiscComChan &&& 0xfe = abisRslMdiscComChan
    decide
  have htype : octet (l2PhChanConf fn msg) 1 = rslMtChanConf := rfl
  rw [rcvRsl, if_neg hrll, if_pos hcch, rcvCch, if_pos htype]
  rfl

/-- A signal does what its event does. -/
theorem rcvSignal_eq (cfg : CatcherConfig) (c : Catcher) (signal : L1Signal) (env : Surroundings)
    (hsignal : signal.Fits) :
    c.rcvSignal cfg (signal, env) =
      (catcher cfg).run c (signal.event.toList.map fun e => (e, env)) := by
  have hone : ∀ e, (catcher cfg).run c [(e, env)] = c.step cfg (e, env) := by
    intro e
    rw [Machine.run_cons, Machine.run_nil, List.append_nil]
    rfl
  cases signal with
  | ccchModeConf ccchMode => rfl
  | phData dl data =>
    refine Eq.trans ?_ (hone _).symm
    unfold rcvSignal step rxPhDataInd l2PhDataInd
    by_cases hcrc : 2 ≤ dl.fireCrc.toNat
    · simp only [hcrc, if_true]
    · simp only [hcrc, if_false]
      by_cases hcbits : dl.chanNr >>> 3 = 0x10 ∨ dl.chanNr >>> 3 = 0x12
      · simp only [hcbits, if_true]
        exact rcvRsl_unitDataInd hsignal dl.chanNr dl.linkId
      · simp only [hcbits, if_false, scanChan_eq_other hcbits, unitDataInd]
        split <;> rfl
  | phRach fn msg =>
    refine Eq.trans ?_ (hone (.chanConf _)).symm
    exact rcvRsl_chanConf fn msg
  | pmRes bandArfcn rxLev => exact (hone (.pmRes bandArfcn rxLev)).symm
  | pmDone => exact (hone .pmDone).symm
  | fbsbResp bandArfcn snr bsic => exact (hone (.fbsbResp bsic)).symm
  | fbsbErr bandArfcn => exact (hone .fbsbErr).symm
  | reset => exact (hone .reset).symm

end Catcher

inductive Layer23Event where
  | recv (msg : Octets)
  | timer

/-- `select` calls `layer2_read` with `l1ctl_recv`, or the timer. -/
def Catcher.layer23Step (cfg : CatcherConfig) (c : Catcher) :
    Layer23Event × Surroundings → Catcher × List CatcherOut
  | (.recv msg, env) =>
    (⟨Catcher.rcvSignal cfg⟩ : Machine Catcher (L1Signal × Surroundings) CatcherOut).run c
      ((l1ctlRecv msg).map fun s => (s, env))
  | (.timer, env) => c.step cfg (.timer, env)

def layer23 (cfg : CatcherConfig) : Machine Catcher (Layer23Event × Surroundings) CatcherOut :=
  ⟨Catcher.layer23Step cfg⟩

def Layer23Event.events : Layer23Event × Surroundings → List (CatcherEvent × Surroundings)
  | (recv msg, env) => (l1ctlRecv msg).filterMap fun s => s.event.map fun e => (e, env)
  | (timer, env) => [(.timer, env)]

def Layer23Event.Fits : Layer23Event → Prop
  | recv msg => msg.length ≤ 256
  | timer => True

theorem l1ctlRecv_fits {msg : Octets} (hmsg : msg.length ≤ 256) :
    ∀ s ∈ l1ctlRecv msg, s.Fits := by
  have hpm : ∀ m : Octets, ∀ s ∈ rxL1PmConf m, s.Fits := by
    intro m
    induction m using rxL1PmConf.induct with
    | case1 => exact nofun
    | case5 high low pm _ rest ih => exact List.forall_mem_cons.2 ⟨trivial, ih⟩
    | _ => exact List.forall_mem_singleton.2 trivial
  unfold l1ctlRecv
  dsimp only
  repeat' split
  · unfold rxL1FbsbConf
    refine List.forall_mem_singleton.2 ?_
    dsimp only
    split <;> trivial
  · refine List.forall_mem_singleton.2 ?_
    change (msg.drop 16).length < 256
    rw [List.length_drop]
    omega
  · exact List.forall_mem_singleton.2 trivial
  · exact List.forall_mem_append.2 ⟨hpm _, List.forall_mem_singleton.2 trivial⟩
  · exact List.forall_mem_append.2 ⟨hpm _, nofun⟩
  · exact List.forall_mem_singleton.2 trivial
  · exact List.forall_mem_singleton.2 trivial
  · exact nofun

theorem recv_eq (cfg : CatcherConfig) (c : Catcher) {msg : Octets}
    (hfits : ∀ s ∈ l1ctlRecv msg, s.Fits) (env : Surroundings) :
    c.layer23Step cfg (.recv msg, env) =
      (catcher cfg).run c (Layer23Event.events (.recv msg, env)) := by
  change Machine.run _ c ((l1ctlRecv msg).map fun s => (s, env)) = _
  rw [Layer23Event.events]
  generalize l1ctlRecv msg = signals at hfits
  induction signals generalizing c with
  | nil => rfl
  | cons s signals ih =>
    rw [List.forall_mem_cons] at hfits
    have hone : c.rcvSignal cfg (s, env) =
        (catcher cfg).run c (s.event.toList.map fun e => (e, env)) :=
      Catcher.rcvSignal_eq cfg c s env hfits.1
    have hsplit : (s :: signals).filterMap (fun s => s.event.map fun e => (e, env)) =
        s.event.toList.map (fun e => (e, env)) ++
          signals.filterMap fun s => s.event.map fun e => (e, env) := by
      cases hevent : s.event with
      | none => rw [List.filterMap_cons_none (by rw [hevent]; rfl)]; rfl
      | some e => rw [List.filterMap_cons_some (by rw [hevent]; rfl)]; rfl
    rw [List.map_cons, Machine.run_cons, hsplit, Machine.run_append, ← hone]
    change ((Machine.run _ (c.rcvSignal cfg (s, env)).1 _).1, _) = _
    rw [ih _ hfits.2]

theorem timer_eq (cfg : CatcherConfig) (c : Catcher) (env : Surroundings) :
    c.layer23Step cfg (.timer, env) =
      (catcher cfg).run c (Layer23Event.events (.timer, env)) := by
  rw [Layer23Event.events, Machine.run_cons, Machine.run_nil, List.append_nil]
  rfl

theorem layer23_step (cfg : CatcherConfig) (c : Catcher) (e : Layer23Event × Surroundings)
    (he : e.1.Fits) : (layer23 cfg).step c e = (catcher cfg).run c (Layer23Event.events e) := by
  obtain ⟨e, env⟩ := e
  cases e with
  | timer => exact timer_eq cfg c env
  | recv msg => exact recv_eq cfg c (l1ctlRecv_fits he) env

/-- Whatever messages come from the phone, the program prints, asks for and remembers what the
scanner does on the events that the messages stand for. -/
theorem layer23_refines (cfg : CatcherConfig) (c : Catcher)
    (es : List (Layer23Event × Surroundings)) (hes : ∀ e ∈ es, e.1.Fits) :
    (layer23 cfg).run c es = (catcher cfg).run c (es.flatMap Layer23Event.events) := by
  induction es generalizing c with
  | nil => rfl
  | cons e es ih =>
    rw [List.forall_mem_cons] at hes
    rw [Machine.run_cons, List.flatMap_cons, Machine.run_append, layer23_step cfg c e hes.1,
      ih _ hes.2]

/-- The phone comes up, a measurement ends, and the timer expires that is not running. -/
def coldStart : List (Layer23Event × Surroundings) :=
  [(.recv (l1ctlTxReset l1ctlResetInd l1ctlResTBoot), {}),
    (.recv (pmConf true [(20, 50), (21, 40)]), {}), (.timer, {})]

theorem layer23_refines_coldStart :
    (layer23 {}).run {} coldStart = (catcher {}).run {} (coldStart.flatMap Layer23Event.events) ∧
      coldStart.flatMap Layer23Event.events ≠ [] := by
  have hboot : (l1ctlTxReset l1ctlResetInd l1ctlResTBoot).length ≤ 256 := by decide
  have hlevels : (pmConf true [(20, 50), (21, 40)]).length ≤ 256 := by decide
  refine ⟨layer23_refines {} {} coldStart ?_, by decide⟩
  rw [coldStart, List.forall_mem_cons, List.forall_mem_cons, List.forall_mem_singleton]
  exact ⟨hboot, hlevels, trivial⟩

end ImsiCatcher

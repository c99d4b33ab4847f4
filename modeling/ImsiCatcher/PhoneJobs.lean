import ImsiCatcher.Phone

/-!
# What the phone is busy with

A request leaves the phone with a job, which the frame interrupt carries on until it is answered:
a measurement over a range of ARFCNs, or the search for a cell. What the phone sends beside the
answer are results that come in between, frames of the serving cell, and confirmations that the
scanner does not wait for. `step_proceeds` says once, for all events, what becomes of a job.
-/

namespace ImsiCatcher

inductive Radio where
  | level (arfcn : ℕ) (rxlev : UInt8)
  | block (arfcn : ℕ) (data : Octets)

/-- A measurement has its next and its last ARFCN, and what is in the message being filled. -/
inductive Job where
  | rest
  | measure (next last : ℕ) (filled : List (ℕ × UInt8))
  | search (arfcn : ℕ)
  | found (arfcn : ℕ)
  | missed (arfcn : ℕ)

/-- A signal that nothing waits for; what is heard in the cell comes with the cell's ARFCN. -/
def L1Signal.Aside (heard : List Radio) (cell : ℕ) : L1Signal → Prop
  | reset | ccchModeConf _ | phRach _ _ => True
  | phData dl data => data.length < 256 ∧ Radio.block cell data ∈ heard ∧
      (cell < 65536 → dl.bandArfcn = cell)
  | pmRes _ _ | pmDone | fbsbResp _ _ _ | fbsbErr _ => False

def Aside (heard : List Radio) (cell : ℕ) (msg : Octets) : Prop :=
  ∃ s : L1Signal, l1ctlRecv msg = [s] ∧ s.Aside heard cell

theorem L1Signal.Aside.mono {heard heard' : List Radio} {cell : ℕ} {s : L1Signal}
    (h : s.Aside heard cell) (hsub : heard ⊆ heard') : s.Aside heard' cell := by
  cases s with
  | phData dl data => exact ⟨h.1, hsub h.2.1, h.2.2⟩
  | _ => exact h

theorem Aside.mono {heard heard' : List Radio} {cell : ℕ} {msg : Octets}
    (h : Aside heard cell msg) (hsub : heard ⊆ heard') : Aside heard' cell msg := by
  obtain ⟨s, hrecv, haside⟩ := h
  exact ⟨s, hrecv, haside.mono hsub⟩

namespace Phone

def hears (p : Phone) : PhoneEvent → List Radio
  | .pmResp rxlev =>
    match p.tdma.findSome? TdmaSet.pmArfcn with
    | some arfcn => [.level arfcn rxlev]
    | none => []
  | .nbResp task block =>
    if 0 < p.nbSets task then [.block p.servingCell.arfcn block.data] else []
  | _ => []

def Does (p : Phone) : Job → Prop
  | .rest => p.tdma = [] ∧ p.complFb = false ∧ p.pm.msg = none
  | .measure next last filled => p.tdma = [.pm next] ∧ p.complFb = false ∧ p.pm.mode = 1 ∧
      p.pm.arfcnNext = next ∧ p.pm.arfcnEnd = last ∧
      p.pm.msg.getD (l1ctlMsgbAlloc l1ctlPmConf) = pmConf false filled
  | .search arfcn =>
      (p.tdma = [.fb 0] ∨ p.tdma = [.fb 1] ∨ p.tdma = [.sb] ∧ p.rfArfcn = arfcn) ∧
      p.complFb = false ∧ p.pm.msg = none ∧ p.fbs.bandArfcn = arfcn ∧
      p.fbs.flags = l1ctlFbsbFFb01sb
  | .found arfcn => p.tdma = [] ∧ p.complFb = true ∧ p.pm.msg = none ∧
      p.fbs.bandArfcn = arfcn ∧ p.fbs.attempt < 13 ∧ p.rfArfcn = arfcn ∧
      p.servingCell.arfcn = arfcn
  | .missed arfcn => p.tdma = [] ∧ p.complFb = true ∧ p.pm.msg = none ∧
      p.fbs.bandArfcn = arfcn ∧ 13 ≤ p.fbs.attempt

/-- What a step makes of a job: the phone goes on beside other things, a further level is in, the
search goes on or ends, or the phone has answered and rests. -/
inductive Proceeds (p : Phone) (e : PhoneEvent) : Job → Phone × List Octets → Prop
  | goesOn {job : Job} {r : Phone × List Octets} (does : r.1.Does job)
      (cell : r.1.servingCell.arfcn = p.servingCell.arfcn)
      (level : ∀ arfcn rxlev, .level arfcn rxlev ∉ p.hears e)
      (out : ∀ m ∈ r.2, Aside (p.hears e) p.servingCell.arfcn m) : Proceeds p e job r
  | level {next last : ℕ} {filled filled' flushed : List (ℕ × UInt8)} {rxlev : UInt8} {p' : Phone}
      (more : next ≠ last) (does : p'.Does (.measure ((next + 1) &&& 0xfbff) last filled'))
      (heard : p.hears e = [.level next rxlev])
      (split : flushed ++ filled' = filled ++ [(next, rxlev)]) :
      Proceeds p e (.measure next last filled)
        (p', if flushed = [] then [] else [pmConf false flushed])
  | measured {last : ℕ} {filled filled' flushed : List (ℕ × UInt8)} {rxlev : UInt8} {p' : Phone}
      (does : p'.Does .rest) (heard : p.hears e = [.level last rxlev])
      (split : flushed ++ filled' = filled ++ [(last, rxlev)]) :
      Proceeds p e (.measure last last filled)
        (p', (if flushed = [] then [] else [pmConf false flushed]) ++ [pmConf true filled'])
  | search {arfcn : ℕ} {p' : Phone} {job : Job}
      (job_eq : job = .search arfcn ∨ job = .found arfcn ∨ job = .missed arfcn)
      (does : p'.Does job) (heard : p.hears e = []) : Proceeds p e (.search arfcn) (p', [])
  | found {arfcn : ℕ} {p' : Phone} {conf : Octets} {out : List Octets} (does : p'.Does .rest)
      (cell : p'.servingCell.arfcn = arfcn) (heard : p.hears e = [])
      (conf_eq : arfcn < 65536 → ∃ snr bsic, l1ctlRecv conf = [.fbsbResp arfcn snr bsic])
      (out_aside : ∀ m ∈ out, Aside [] arfcn m) : Proceeds p e (.found arfcn) (p', conf :: out)
  | missed {arfcn : ℕ} {p' : Phone} {conf : Octets} {out : List Octets} (does : p'.Does .rest)
      (heard : p.hears e = [])
      (conf_eq : arfcn < 65536 → l1ctlRecv conf = [.fbsbErr arfcn])
      (out_aside : ∀ m ∈ out, Aside [] arfcn m) : Proceeds p e (.missed arfcn) (p', conf :: out)

variable {p p' : Phone} {e : PhoneEvent} {job : Job}

/-- A job goes by these fields alone. -/
theorem Does.congr (h : p.Does job) (tdma : p'.tdma = p.tdma) (complFb : p'.complFb = p.complFb)
    (pm : p'.pm = p.pm) (fbs : p'.fbs = p.fbs) (rfArfcn : p'.rfArfcn = p.rfArfcn)
    (cell : p'.servingCell.arfcn = p.servingCell.arfcn) : p'.Does job := by
  cases job <;> simpa only [Does, tdma, complFb, pm, fbs, rfArfcn, cell] using h

theorem goesOn_silent (h : p.Does job) (hears : p.hears e = []) : Proceeds p e job (p, []) := by
  refine .goesOn h rfl ?_ ?_
  · intro arfcn rxlev
    rw [hears]
    exact List.not_mem_nil
  · exact List.forall_mem_nil _

/-! ### Events that no job waits for -/

theorem nbResp_proceeds (h : p.Does job) (task : MframeTask) (block : NormalBlock) :
    Proceeds p (.nbResp task block) job (p.step (.nbResp task block)) := by
  by_cases htask : 0 < p.nbSets task
  · have hstep : p.step (.nbResp task block) =
        ({ p with nbSets := fun t => if t = task then p.nbSets t - 1 else p.nbSets t },
          p.l1sNbResp task block) := if_pos htask
    have hdoes : Does
        { p with nbSets := fun t => if t = task then p.nbSets t - 1 else p.nbSets t } job :=
      h.congr rfl rfl rfl rfl rfl rfl
    have hhears : p.hears (.nbResp task block) =
        [.block p.servingCell.arfcn block.data] := if_pos htask
    rw [hstep]
    refine .goesOn hdoes rfl ?_ ?_
    · intro arfcn rxlev hlevel
      rw [hhears, List.mem_singleton] at hlevel
      cases hlevel
    · rw [l1sNbResp, List.forall_mem_singleton]
      refine ⟨.phData _ block.data, rfl, ?_, ?_, ?_⟩
      · rw [block.length_data]
        decide
      · rw [hhears]
        exact List.mem_singleton.2 rfl
      · intro hcell
        exact ntohs_htons hcell []
  · have hstep : p.step (.nbResp task block) = (p, []) := if_neg htask
    rw [hstep]
    exact goesOn_silent h (if_neg htask)

theorem rachResp_proceeds (h : p.Does job) (fn : UInt32) :
    Proceeds p (.rachResp fn) job (p.step (.rachResp fn)) := by
  by_cases hsets : 0 < p.rachSets
  · have hstep : p.step (.rachResp fn) = (p.l1sTxRachResp fn, []) := if_pos hsets
    have hdoes : (p.l1sTxRachResp fn).Does job := h.congr rfl rfl rfl rfl rfl rfl
    rw [hstep]
    exact .goesOn hdoes rfl (fun _ _ => List.not_mem_nil) (List.forall_mem_nil _)
  · have hstep : p.step (.rachResp fn) = (p, []) := if_neg hsets
    rw [hstep]
    exact goesOn_silent h rfl

/-- A scheduler that adds a set leaves the job alone. -/
theorem schedule_proceeds {p' : Phone} (h : p.Does job) (tdma : p'.tdma = p.tdma)
    (complFb : p'.complFb = p.complFb) (pm : p'.pm = p.pm) (fbs : p'.fbs = p.fbs)
    (rfArfcn : p'.rfArfcn = p.rfArfcn) (cell : p'.servingCell = p.servingCell)
    (hhears : p.hears e = []) : Proceeds p e job (p', []) := by
  have hcell : p'.servingCell.arfcn = p.servingCell.arfcn := congrArg L1CellInfo.arfcn cell
  refine .goesOn (h.congr tdma complFb pm fbs rfArfcn hcell) hcell ?_ (List.forall_mem_nil _)
  rw [hhears]
  exact fun _ _ => List.not_mem_nil

/-- The confirmation of a RACH burst, where one is due. -/
theorem rach_aside (p : Phone) (heard : List Radio) (cell : ℕ) :
    ∀ m ∈ if p.complRach then [rachConf p.lastRach.fn.toNat p.lastRach.bandArfcn] else [],
      Aside heard cell m := by
  split
  · rw [List.forall_mem_singleton]
    exact ⟨_, rfl, trivial⟩
  · exact List.forall_mem_nil _

theorem compl_proceeds_busy (h : p.Does job) (hcompl : p.complFb = false) :
    Proceeds p .compl job (p.step .compl) := by
  have hstep : p.step .compl = ({ p with complFb := false, complRach := false },
      if p.complRach then [rachConf p.lastRach.fn.toNat p.lastRach.bandArfcn] else []) := by
    change p.l1aComplExecute = _
    rw [l1aComplExecute, hcompl]
    rfl
  have hdoes : Does { p with complFb := false, complRach := false } job :=
    h.congr rfl hcompl.symm rfl rfl rfl rfl
  rw [hstep]
  exact .goesOn hdoes rfl (fun _ _ => List.not_mem_nil) (rach_aside p _ _)

theorem pmResp_proceeds_idle (h : p.Does job) (rxlev : UInt8)
    (hnone : p.tdma.findSome? TdmaSet.pmArfcn = none) :
    Proceeds p (.pmResp rxlev) job (p.step (.pmResp rxlev)) := by
  have hstep : p.step (.pmResp rxlev) = (p, []) := by
    rw [step, hnone]
  have hhears : p.hears (.pmResp rxlev) = [] := by
    rw [hears, hnone]
  rw [hstep]
  exact goesOn_silent h hhears

theorem fbdetResp_proceeds_idle (h : p.Does job) (attempt : Fin 13) (found : Option (ℤ × ℕ))
    (hnone : p.tdma.findSome? TdmaSet.fbMode = none) :
    Proceeds p (.fbdetResp attempt found) job (p.step (.fbdetResp attempt found)) := by
  have hstep : p.step (.fbdetResp attempt found) = (p, []) := by
    rw [step, hnone]
  rw [hstep]
  exact goesOn_silent h rfl

theorem sbdetResp_proceeds_idle (h : p.Does job) (attempt : Fin 3) (found : Option SchBurst)
    (hnone : .sb ∉ p.tdma) :
    Proceeds p (.sbdetResp attempt found) job (p.step (.sbdetResp attempt found)) := by
  have hstep : p.step (.sbdetResp attempt found) = (p, []) := if_neg hnone
  rw [hstep]
  exact goesOn_silent h rfl

/-! ### Measuring -/

theorem length_pmConf (done : Bool) (entries : List (ℕ × UInt8)) :
    (pmConf done entries).length = 4 + 4 * entries.length := by
  have hentries : (entries.flatMap pmEntry).length = 4 * entries.length := by
    induction entries with
    | nil => rfl
    | cons m entries ih =>
      rw [List.flatMap_cons, List.length_append, ih, List.length_cons]
      change 4 + 4 * entries.length = _
      omega
  rw [pmConf, List.length_append, hentries]
  rfl

theorem pmConf_append (entries : List (ℕ × UInt8)) (m : ℕ × UInt8) :
    pmConf false entries ++ pmEntry m = pmConf false (entries ++ [m]) := by
  rw [pmConf, pmConf, List.flatMap_append, List.flatMap_singleton, List.append_assoc]

theorem pmConf_done (entries : List (ℕ × UInt8)) :
    (pmConf false entries).set 1 (octet (pmConf false entries) 1 ||| l1ctlFDone) =
      pmConf true entries := by
  have hflag : (0 : UInt8) ||| l1ctlFDone = l1ctlFDone := by decide
  change [l1ctlPmConf, 0 ||| l1ctlFDone, 0, 0] ++ _ = [l1ctlPmConf, l1ctlFDone, 0, 0] ++ _
  rw [hflag]

/-- The message that is sent because it is full, and what is in the next one. -/
def flushedBefore (filled : List (ℕ × UInt8)) : List (ℕ × UInt8) :=
  if 50 ≤ filled.length then filled else []

def filledAfter (filled : List (ℕ × UInt8)) (m : ℕ × UInt8) : List (ℕ × UInt8) :=
  (if 50 ≤ filled.length then [] else filled) ++ [m]

theorem flushedBefore_append (filled : List (ℕ × UInt8)) (m : ℕ × UInt8) :
    flushedBefore filled ++ filledAfter filled m = filled ++ [m] := by
  unfold flushedBefore filledAfter
  split <;> rfl

theorem l1sPmResp_eq {next : ℕ} {filled : List (ℕ × UInt8)} (rxlev : UInt8)
    (hmode : p.pm.mode = 1)
    (hmsg : p.pm.msg.getD (l1ctlMsgbAlloc l1ctlPmConf) = pmConf false filled) :
    p.l1sPmResp next rxlev =
      let flushed := if flushedBefore filled = [] then [] else [pmConf false (flushedBefore filled)]
      let p := { p with rfArfcn := next, tdma := p.tdma.erase (.pm next) }
      if p.pm.arfcnNext ≠ p.pm.arfcnEnd then
        ({ p with
            pm := { p.pm with
              msg := some (pmConf false (filledAfter filled (next, rxlev)))
              arfcnNext := (p.pm.arfcnNext + 1) &&& 0xfbff }
            tdma := p.tdma ++ [.pm ((p.pm.arfcnNext + 1) &&& 0xfbff)] }, flushed)
      else
        ({ p with pm := { p.pm with msg := none } },
          flushed ++ [pmConf true (filledAfter filled (next, rxlev))]) := by
  have hfull : l3MsgSize - (pmConf false filled).length < 4 ↔ 50 ≤ filled.length := by
    rw [length_pmConf, l3MsgSize]
    omega
  have hflushed : (if l3MsgSize - (pmConf false filled).length < 4 then [pmConf false filled]
      else []) =
      if flushedBefore filled = [] then [] else [pmConf false (flushedBefore filled)] := by
    rw [if_congr hfull rfl rfl, flushedBefore]
    by_cases h50 : 50 ≤ filled.length
    · have hne : filled ≠ [] := List.length_pos_iff.1 (by omega)
      rw [if_pos h50, if_pos h50, if_neg hne]
    · rw [if_neg h50, if_neg h50, if_pos rfl]
  have hfilled : (if l3MsgSize - (pmConf false filled).length < 4 then l1ctlMsgbAlloc l1ctlPmConf
      else pmConf false filled) ++ pmEntry (next, rxlev) =
      pmConf false (filledAfter filled (next, rxlev)) := by
    rw [if_congr hfull rfl rfl, filledAfter, ← pmConf_append]
    split <;> rfl
  unfold l1sPmResp
  dsimp only
  rw [hmsg, hflushed, hfilled, hmode, if_pos rfl, pmConf_done]

theorem pmResp_proceeds {next last : ℕ} {filled : List (ℕ × UInt8)}
    (h : p.Does (.measure next last filled)) (rxlev : UInt8) :
    Proceeds p (.pmResp rxlev) (.measure next last filled) (p.step (.pmResp rxlev)) := by
  obtain ⟨htdma, hcompl, hmode, hnext, hlast, hmsg⟩ := h
  have hone : p.tdma.findSome? TdmaSet.pmArfcn = some next := by
    rw [htdma]
    rfl
  have hheard : p.hears (.pmResp rxlev) = [.level next rxlev] := by
    rw [hears, hone]
  have hstep : p.step (.pmResp rxlev) = p.l1sPmResp next rxlev := by
    rw [step, hone]
  have hrest : p.tdma.erase (.pm next) = [] := by
    rw [htdma, List.erase_cons_head]
  rw [hstep, l1sPmResp_eq rxlev hmode hmsg]
  dsimp only
  rw [hrest, hnext, hlast]
  by_cases hmore : next = last
  · subst hmore
    rw [if_neg (not_not.2 rfl)]
    exact .measured ⟨rfl, hcompl, rfl⟩ hheard (flushedBefore_append filled _)
  · rw [if_pos hmore]
    exact .level hmore ⟨rfl, hcompl, hmode, rfl, rfl, rfl⟩ hheard (flushedBefore_append filled _)

/-! ### Searching -/

theorem l1sFbdetResp_does {arfcn mode : ℕ} (hmode : mode = 0 ∨ mode = 1)
    (hcompl : p.complFb = false) (hmsg : p.pm.msg = none) (hband : p.fbs.bandArfcn = arfcn)
    (hflags : p.fbs.flags = l1ctlFbsbFFb01sb) (attempt : ℕ) (found : Option (ℤ × ℕ)) :
    (p.l1sFbdetResp mode attempt found).Does (.search arfcn) ∨
      (p.l1sFbdetResp mode attempt found).Does (.missed arfcn) := by
  have hfb1 : l1ctlFbsbFFb01sb &&& l1ctlFbsbFFb1 ≠ 0 := by decide
  have hsb : l1ctlFbsbFFb01sb &&& l1ctlFbsbFSb ≠ 0 := by decide
  have hlast : 13 ≤ 13 := Nat.le_refl 13
  unfold l1sFbdetResp searchFailed
  rcases found with _ | ⟨freqDiff, snr⟩
  · dsimp only
    split
    · exact Or.inl ⟨Or.inl rfl, hcompl, hmsg, hband, hflags⟩
    · exact Or.inr ⟨rfl, rfl, hmsg, hband, hlast⟩
  · dsimp only
    rw [hflags, if_pos hfb1, if_pos hsb]
    rcases hmode with rfl | rfl
    · rw [if_pos rfl]
      split
      · exact Or.inl ⟨Or.inr (Or.inl rfl), hcompl, hmsg, hband, rfl⟩
      · split
        · exact Or.inl ⟨Or.inl rfl, hcompl, hmsg, hband, rfl⟩
        · exact Or.inr ⟨rfl, rfl, hmsg, hband, hlast⟩
    · rw [if_neg Nat.one_ne_zero]
      split
      · exact Or.inl ⟨Or.inr (Or.inr ⟨rfl, hband⟩), hcompl, hmsg, hband, rfl⟩
      · exact Or.inl ⟨Or.inr (Or.inl rfl), hcompl, hmsg, hband, rfl⟩

theorem fbdetResp_proceeds {arfcn : ℕ} (h : p.Does (.search arfcn)) (attempt : Fin 13)
    (found : Option (ℤ × ℕ)) :
    Proceeds p (.fbdetResp attempt found) (.search arfcn) (p.step (.fbdetResp attempt found)) := by
  have hdetect : ∀ mode, mode = 0 ∨ mode = 1 → p.tdma = [.fb mode] →
      Proceeds p (.fbdetResp attempt found) (.search arfcn)
        (p.step (.fbdetResp attempt found)) := by
    intro mode hmode htdma
    obtain ⟨-, hcompl, hmsg, hband, hflags⟩ := h
    have hstep : p.step (.fbdetResp attempt found) =
        (p.l1sFbdetResp mode attempt found, []) := by
      rw [step, htdma]
      rfl
    rw [hstep]
    rcases l1sFbdetResp_does hmode hcompl hmsg hband hflags attempt found with hdoes | hdoes
    · exact .search (Or.inl rfl) hdoes rfl
    · exact .search (Or.inr (Or.inr rfl)) hdoes rfl
  rcases h.1 with htdma | htdma | ⟨htdma, -⟩
  · exact hdetect 0 (Or.inl rfl) htdma
  · exact hdetect 1 (Or.inr rfl) htdma
  · refine fbdetResp_proceeds_idle h attempt found ?_
    rw [htdma]
    rfl

theorem enableCcch_eq (p : Phone) : p.enableCcch = { p with mframe := p.enableCcch.mframe } := by
  unfold enableCcch
  split
  · rfl
  · split <;> rfl

theorem sbdetResp_proceeds {arfcn : ℕ} (h : p.Does (.search arfcn)) (attempt : Fin 3)
    (found : Option SchBurst) :
    Proceeds p (.sbdetResp attempt found) (.search arfcn) (p.step (.sbdetResp attempt found)) := by
  by_cases hsb : .sb ∈ p.tdma
  · obtain ⟨htdma, hcompl, hmsg, hband, hflags⟩ := h
    have hone : p.tdma = [.sb] ∧ p.rfArfcn = arfcn := by
      rcases htdma with htdma | htdma | hone
      · rw [htdma, List.mem_singleton] at hsb
        cases hsb
      · rw [htdma, List.mem_singleton] at hsb
        cases hsb
      · exact hone
    have hstep : p.step (.sbdetResp attempt found) = (p.l1sSbdetResp attempt found, []) :=
      if_pos hsb
    have hrest : p.tdma.erase .sb = [] := by
      rw [hone.1, List.erase_cons_head]
    rw [hstep]
    unfold l1sSbdetResp
    dsimp only
    rw [hrest, ite_self]
    cases found with
    | none =>
      have hmissed : 13 ≤ 13 := Nat.le_refl 13
      exact .search (Or.inr (Or.inr rfl)) ⟨rfl, rfl, hmsg, hband, hmissed⟩ rfl
    | some sb =>
      have hattempt : attempt.val < 13 := Nat.lt_trans attempt.isLt (by decide)
      dsimp only
      rw [enableCcch_eq]
      refine .search (Or.inr (Or.inl rfl)) ?_ rfl
      exact ⟨rfl, rfl, hmsg, hband, hattempt, hone.2, hone.2⟩
  · exact sbdetResp_proceeds_idle h attempt found hsb

/-! ### Answering -/

theorem found_proceeds {arfcn : ℕ} (h : p.Does (.found arfcn)) :
    Proceeds p .compl (.found arfcn) (p.step .compl) := by
  obtain ⟨htdma, hcompl, hmsg, hband, hattempt, hrf, hcell⟩ := h
  have hstep : p.step .compl =
      ({ p with
          servingCell := { p.servingCell with arfcn := p.rfArfcn }
          complFb := false
          complRach := false },
        p.l1ctlFbsbResp 0 ::
          if p.complRach then [rachConf p.lastRach.fn.toNat p.lastRach.bandArfcn] else []) := by
    change p.l1aComplExecute = _
    rw [l1aComplExecute, hcompl]
    dsimp only
    rw [if_pos rfl, l1aFbCompl, if_neg (Nat.not_le.2 hattempt)]
    rfl
  rw [hstep]
  refine .found ⟨htdma, rfl, hmsg⟩ hrf rfl ?_ (rach_aside p _ _)
  intro hwide
  refine ⟨UInt8.ofNat (p.fbs.snr / 1024), p.fbs.bsic, ?_⟩
  rw [l1ctlFbsbResp, hband]
  exact l1ctlRecv_fbsbConf p.fbs.fn.toNat_lt hwide _ _ 0 _

theorem missed_proceeds {arfcn : ℕ} (h : p.Does (.missed arfcn)) :
    Proceeds p .compl (.missed arfcn) (p.step .compl) := by
  obtain ⟨htdma, hcompl, hmsg, hband, hattempt⟩ := h
  have hstep : p.step .compl = ({ p with complFb := false, complRach := false },
        p.l1ctlFbsbResp 255 ::
          if p.complRach then [rachConf p.lastRach.fn.toNat p.lastRach.bandArfcn] else []) := by
    change p.l1aComplExecute = _
    rw [l1aComplExecute, hcompl]
    dsimp only
    rw [if_pos rfl, l1aFbCompl, if_pos hattempt]
    rfl
  rw [hstep]
  refine .missed ⟨htdma, rfl, hmsg⟩ rfl ?_ (rach_aside p _ _)
  intro hwide
  rw [l1ctlFbsbResp, hband]
  exact l1ctlRecv_fbsbConf p.fbs.fn.toNat_lt hwide _ _ 255 _

/-- What a step of the phone makes of its job. -/
theorem step_proceeds (h : p.Does job) (e : PhoneEvent) : Proceeds p e job (p.step e) := by
  cases e with
  | mframeSchedule task =>
    change Proceeds p _ job (p.mframeSchedule task, [])
    unfold mframeSchedule
    split <;> exact schedule_proceeds h rfl rfl rfl rfl rfl rfl rfl
  | schedGsmtimeExecute =>
    change Proceeds p _ job (p.schedGsmtimeExecute, [])
    unfold schedGsmtimeExecute
    split <;> exact schedule_proceeds h rfl rfl rfl rfl rfl rfl rfl
  | nbResp task block => exact nbResp_proceeds h task block
  | rachResp fn => exact rachResp_proceeds h fn
  | compl =>
    cases job with
    | rest => exact compl_proceeds_busy h h.2.1
    | measure next last filled => exact compl_proceeds_busy h h.2.1
    | search arfcn => exact compl_proceeds_busy h h.2.1
    | found arfcn => exact found_proceeds h
    | missed arfcn => exact missed_proceeds h
  | pmResp rxlev =>
    cases job with
    | measure next last filled => exact pmResp_proceeds h rxlev
    | search arfcn =>
      refine pmResp_proceeds_idle h rxlev ?_
      rcases h.1 with htdma | htdma | ⟨htdma, -⟩ <;> (rw [htdma]; rfl)
    | _ =>
      refine pmResp_proceeds_idle h rxlev ?_
      rw [h.1]
      rfl
  | fbdetResp attempt found =>
    cases job with
    | search arfcn => exact fbdetResp_proceeds h attempt found
    | _ =>
      refine fbdetResp_proceeds_idle h attempt found ?_
      rw [h.1]
      rfl
  | sbdetResp attempt found =>
    cases job with
    | search arfcn => exact sbdetResp_proceeds h attempt found
    | _ =>
      refine sbdetResp_proceeds_idle h attempt found ?_
      rw [h.1]
      simp

end Phone

/-! ### Requests -/

/-- A request that a resting phone rests after. -/
inductive SideRequest : Octets → Prop
  | reset : SideRequest (l1ctlTxResetReq l1ctlResTFull)
  | ccchMode (mode : UInt8) : SideRequest (l1ctlTxCcchModeReq mode)
  | param (ta txPower : UInt8) : SideRequest (l1ctlTxParamReq ta txPower)
  | rach (ra : UInt8) (offset : ℕ) (combined : UInt8) :
      SideRequest (l1ctlTxRachReq ra offset combined)

namespace Phone
variable {p : Phone}

theorem handler_side {msg : Octets} (hmsg : SideRequest msg) (h : p.Does .rest) :
    (p.l1aL23Handler msg).1.Does .rest ∧
      (p.l1aL23Handler msg).1.servingCell.arfcn = p.servingCell.arfcn ∧
      ∀ m ∈ (p.l1aL23Handler msg).2, Aside [] p.servingCell.arfcn m := by
  obtain ⟨htdma, hcompl, hnone⟩ := h
  cases hmsg with
  | reset =>
    have hhandler : p.l1aL23Handler (l1ctlTxResetReq l1ctlResTFull) =
        (p.l1sReset, [l1ctlTxReset l1ctlResetConf l1ctlResTFull]) := rfl
    rw [hhandler]
    refine ⟨⟨rfl, hcompl, hnone⟩, rfl, ?_⟩
    rw [List.forall_mem_singleton]
    exact ⟨.reset, l1ctlRecv_reset _ (Or.inr rfl), trivial⟩
  | ccchMode mode =>
    have hhandler : p.l1aL23Handler (l1ctlTxCcchModeReq mode) =
        p.l1ctlRxCcchModeReq (l1ctlTxCcchModeReq mode) := rfl
    rw [hhandler, l1ctlRxCcchModeReq, enableCcch_eq]
    refine ⟨⟨htdma, hcompl, hnone⟩, rfl, ?_⟩
    rw [List.forall_mem_singleton]
    exact ⟨_, l1ctlRecv_ccchModeConf _, trivial⟩
  | param ta txPower => exact ⟨⟨htdma, hcompl, hnone⟩, rfl, List.forall_mem_nil _⟩
  | rach ra offset combined => exact ⟨⟨htdma, hcompl, hnone⟩, rfl, List.forall_mem_nil _⟩

theorem handler_measure (h : p.Does .rest) {lower upper : ℕ} (hlower : lower < 65536)
    (hupper : upper < 65536) :
    (p.l1aL23Handler (l1ctlTxPmReqRange lower upper)).1.Does (.measure lower upper []) ∧
      (p.l1aL23Handler (l1ctlTxPmReqRange lower upper)).2 = [] := by
  obtain ⟨htdma, hcompl, hnone⟩ := h
  have hhandler : p.l1aL23Handler (l1ctlTxPmReqRange lower upper) =
      (p.l1ctlRxPmReq (l1ctlTxPmReqRange lower upper), []) := rfl
  have hnext : ntohs (l1ctlTxPmReqRange lower upper) 8 = lower := ntohs_htons hlower []
  have hend : ntohs (l1ctlTxPmReqRange lower upper) 10 = upper := ntohs_htons hupper []
  have htype : octet (l1ctlTxPmReqRange lower upper) 4 = 1 := rfl
  rw [hhandler, l1ctlRxPmReq, if_pos htype, hnext, hend, htdma]
  refine ⟨⟨rfl, hcompl, rfl, rfl, rfl, ?_⟩, rfl⟩
  dsimp only
  rw [hnone]
  rfl

theorem handler_search (h : p.Does .rest) {arfcn : ℕ} (harfcn : arfcn < 65536) (timeout : ℕ)
    (syncInfoIdx ccchMode : UInt8) :
    (p.l1aL23Handler (l1ctlTxFbsbReq arfcn l1ctlFbsbFFb01sb timeout syncInfoIdx ccchMode)).1.Does
        (.search arfcn) ∧
      (p.l1aL23Handler
        (l1ctlTxFbsbReq arfcn l1ctlFbsbFFb01sb timeout syncInfoIdx ccchMode)).2 = [] := by
  obtain ⟨htdma, hcompl, hnone⟩ := h
  have hhandler : p.l1aL23Handler
      (l1ctlTxFbsbReq arfcn l1ctlFbsbFFb01sb timeout syncInfoIdx ccchMode) =
      (p.l1ctlRxFbsbReq
        (l1ctlTxFbsbReq arfcn l1ctlFbsbFFb01sb timeout syncInfoIdx ccchMode), []) := rfl
  have hband : ntohs (l1ctlTxFbsbReq arfcn l1ctlFbsbFFb01sb timeout syncInfoIdx ccchMode) 4 =
      arfcn :=
    ntohs_htons harfcn []
  have hlen : ¬(l1ctlTxFbsbReq arfcn l1ctlFbsbFFb01sb timeout syncInfoIdx ccchMode).length < 12 :=
    Nat.not_lt.2 (Nat.le_add_left 12 4)
  have hfb : l1ctlFbsbFFb01sb &&& (l1ctlFbsbFFb0 ||| l1ctlFbsbFFb1) ≠ 0 := by decide
  have hflags : octet (l1ctlTxFbsbReq arfcn l1ctlFbsbFFb01sb timeout syncInfoIdx ccchMode) 13 =
      l1ctlFbsbFFb01sb := rfl
  rw [hhandler, l1ctlRxFbsbReq, if_neg hlen]
  dsimp only
  rw [hflags, hband, if_pos hfb]
  exact ⟨⟨Or.inl rfl, hcompl, hnone, rfl, rfl⟩, rfl⟩

end Phone
end ImsiCatcher

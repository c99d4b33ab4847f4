import ImsiCatcher.CatcherStep

/-!
# What a record owes to the messages that were decoded

Since the last synchronisation, the record of a cell has changed only through what each
event was taken in for. A property of the record and of the messages gathered so far is
carried along a run by what one event does to it. Where the messages are those that `bcch`
decoded, two facts are enough: that a decoder keeps the property, and that the colour code of
the synchronisation burst does not matter to it.
-/

namespace ImsiCatcher

/-! ### The rule for runs since a synchronisation -/

namespace Catcher

/-- `along` gathers what `got` finds in each step of a run. -/
structure Gathers (cfg : CatcherConfig)
    (got : Catcher → CatcherEvent × Surroundings → Option Octets)
    (along : Catcher → List (CatcherEvent × Surroundings) → List Octets) : Prop where
  nil : ∀ c, along c [] = []
  cons : ∀ c e es, along c (e :: es) = (got c e).toList ++ along (step cfg c e).1 es

namespace Gathers
variable {cfg : CatcherConfig} {got : Catcher → CatcherEvent × Surroundings → Option Octets}
  {along : Catcher → List (CatcherEvent × Surroundings) → List Octets}

theorem append (h : Gathers cfg got along) (c : Catcher)
    (es es' : List (CatcherEvent × Surroundings)) :
    along c (es ++ es') = along c es ++ along ((catcher cfg).run c es).1 es' := by
  induction es generalizing c with
  | nil => rw [h.nil, List.nil_append, List.nil_append, Machine.run_nil]
  | cons e es ih =>
    rw [List.cons_append, h.cons, h.cons, ih, List.append_assoc]
    rfl

variable {I : Gsm48Sysinfo → List Octets → Prop}

theorem run (h : Gathers cfg got along)
    (htaken : ∀ c msgs e, I c.sysinfo msgs → I (c.takenIn e) (msgs ++ (got c e).toList))
    {c : Catcher} {msgs : List Octets} (hc : I c.sysinfo msgs)
    {es : List (CatcherEvent × Surroundings)}
    (hes : tuned ((catcher cfg).run c es).2 = none) :
    I ((catcher cfg).run c es).1.sysinfo (msgs ++ along c es) := by
  induction es generalizing c msgs with
  | nil =>
    rw [h.nil, List.append_nil]
    exact hc
  | cons e es ih =>
    rw [Machine.run_cons, tuned_append, Option.or_eq_none_iff] at hes
    rw [h.cons, ← List.append_assoc]
    refine ih ?_ hes.2
    have hsys := (step_reported cfg c e).sysinfo
    have htuned : tuned (step cfg c e).2 = none := hes.1
    rw [htuned] at hsys
    change I (step cfg c e).1.sysinfo _
    rw [hsys]
    exact htaken c msgs e hc

/-- What is held since a synchronisation. -/
theorem held (h : Gathers cfg got along)
    (htaken : ∀ c msgs e, I c.sysinfo msgs → I (c.takenIn e) (msgs ++ (got c e).toList))
    {a : ℕ} (hstart : I { arfcn := a } []) (env : Surroundings) {c : Catcher}
    (hc : tuned (c.startSync cfg env).2 = some a) {es : List (CatcherEvent × Surroundings)}
    (hes : tuned ((catcher cfg).run (c.startSync cfg env).1 es).2 = none) :
    I ((catcher cfg).run (c.startSync cfg env).1 es).1.sysinfo
      (along (c.startSync cfg env).1 es) := by
  have hsys := (startSync_left cfg env c).sysinfo
  rw [hc] at hsys
  have hsync : I (c.startSync cfg env).1.sysinfo [] := by
    rw [hsys]
    exact hstart
  exact h.run htaken hsync hes

/-- What is printed since a synchronisation. -/
theorem report (h : Gathers cfg got along)
    (htaken : ∀ c msgs e, I c.sysinfo msgs → I (c.takenIn e) (msgs ++ (got c e).toList))
    {a : ℕ} (hstart : I { arfcn := a } []) (env : Surroundings) {c : Catcher}
    (hc : tuned (c.startSync cfg env).2 = some a) {es : List (CatcherEvent × Surroundings)}
    (hes : tuned ((catcher cfg).run (c.startSync cfg env).1 es).2 = none)
    {e : CatcherEvent × Surroundings} {s : Gsm48Sysinfo}
    (hs : s ∈ reports (step cfg ((catcher cfg).run (c.startSync cfg env).1 es).1 e).2) :
    I s (along (c.startSync cfg env).1 (es ++ [e])) := by
  rw [h.append, h.cons, h.nil, List.append_nil, ((step_reported cfg _ e).of_mem hs).1]
  exact htaken _ _ e (h.held htaken hstart env hc hes)

end Gathers
end Catcher

/-! ### The messages that are decoded -/

/-- A message that is decoded has 23 octets, and goes to the decoder of its type. -/
theorem Gsm48Sysinfo.bcchDecode_some {s s' : Gsm48Sysinfo} {msg : Octets}
    (h : s.bcchDecode msg = some s') {motive : Gsm48Sysinfo → Prop}
    (si1 : messageType msg = 0x19 → motive (s.gsm48DecodeSysinfo1 msg))
    (si2 : messageType msg = 0x1a → motive (s.gsm48DecodeSysinfo2 msg))
    (si2bis : messageType msg = 0x02 → motive (s.gsm48DecodeSysinfo2bis msg))
    (si2ter : messageType msg = 0x03 → motive (s.gsm48DecodeSysinfo2ter msg))
    (si3 : messageType msg = 0x1b → motive (s.gsm48DecodeSysinfo3 msg))
    (si4 : messageType msg = 0x1c → motive (s.gsm48DecodeSysinfo4 msg))
    (si5 : messageType msg = 0x1d → motive (s.gsm48DecodeSysinfo5 msg))
    (si5bis : messageType msg = 0x05 → motive (s.gsm48DecodeSysinfo5bis msg))
    (si5ter : messageType msg = 0x06 → motive (s.gsm48DecodeSysinfo5ter msg))
    (si6 : messageType msg = 0x1e → motive (s.gsm48DecodeSysinfo6 msg)) : motive s' := by
  unfold bcchDecode at h
  split at h
  · cases h
  · split at h
    case h_11 => cases h
    all_goals
      rename_i ht
      split at h
      · cases h
      · cases h
        first
        | exact si1 ht
        | exact si2 ht
        | exact si2bis ht
        | exact si2ter ht
        | exact si3 ht
        | exact si4 ht
        | exact si5 ht
        | exact si5bis ht
        | exact si5ter ht
        | exact si6 ht

theorem Gsm48Sysinfo.length_of_bcchDecode {s s' : Gsm48Sysinfo} {msg : Octets}
    (h : s.bcchDecode msg = some s') : msg.length = 23 := by
  by_contra hlen
  unfold bcchDecode at h
  rw [if_pos hlen] at h
  cases h

namespace Catcher

/-- The message of a step that `bcch` decodes: it is neither malformed nor the one held. -/
def accepted (c : Catcher) (e : CatcherEvent × Surroundings) : Option Octets :=
  (c.heard e).filter fun msg => (c.sysinfo.bcchDecode msg).isSome

def acceptedAlong (cfg : CatcherConfig) : Catcher → List (CatcherEvent × Surroundings) →
    List Octets
  | _, [] => []
  | c, e :: es => (c.accepted e).toList ++ acceptedAlong cfg (step cfg c e).1 es

theorem acceptedAlong_gathers (cfg : CatcherConfig) :
    Gathers cfg accepted (acceptedAlong cfg) := ⟨fun _ => rfl, fun _ _ _ => rfl⟩

/-- What an event makes of the record: the colour code is new, a message is decoded, or
nothing happens. -/
theorem takenIn_cases (c : Catcher) (e : CatcherEvent × Surroundings) :
    (∃ bsic, c.takenIn e = { c.sysinfo with bsic := bsic } ∧ c.accepted e = none) ∨
      (∃ msg s, c.sysinfo.bcchDecode msg = some s ∧ c.takenIn e = s ∧ c.accepted e = some msg) ∨
      c.takenIn e = c.sysinfo ∧ c.accepted e = none := by
  obtain ⟨e, env⟩ := e
  cases e with
  | dataInd chan rxLevel fireCrc l3 =>
    unfold takenIn accepted
    cases hheard : c.heard (.dataInd chan rxLevel fireCrc l3, env) with
    | none => exact Or.inr (Or.inr ⟨rfl, rfl⟩)
    | some msg =>
      cases hdecode : c.sysinfo.bcchDecode msg with
      | none => exact Or.inr (Or.inr ⟨by simp [hdecode], by simp [Option.filter, hdecode]⟩)
      | some s =>
        exact Or.inr (Or.inl ⟨msg, s, hdecode, by simp [hdecode], by simp [Option.filter, hdecode]⟩)
  | fbsbResp bsic => exact Or.inl ⟨bsic.toNat, rfl, rfl⟩
  | _ => exact Or.inr (Or.inr ⟨rfl, rfl⟩)

section rule
variable {I : Gsm48Sysinfo → List Octets → Prop}
  (hbsic : ∀ s msgs bsic, I s msgs → I { s with bsic := bsic } msgs)
  (hdecode : ∀ s msgs msg s', I s msgs → s.bcchDecode msg = some s' → I s' (msgs ++ [msg]))
include hbsic hdecode

theorem takenIn_accepted (c : Catcher) (msgs : List Octets) (e : CatcherEvent × Surroundings)
    (hc : I c.sysinfo msgs) : I (c.takenIn e) (msgs ++ (c.accepted e).toList) := by
  rcases c.takenIn_cases e with ⟨bsic, htaken, hacc⟩ | ⟨msg, s, hs, htaken, hacc⟩ | ⟨htaken, hacc⟩
  · rw [htaken, hacc, Option.toList_none, List.append_nil]
    exact hbsic _ _ bsic hc
  · rw [htaken, hacc, Option.toList_some]
    exact hdecode _ _ msg s hc hs
  · rw [htaken, hacc, Option.toList_none, List.append_nil]
    exact hc

/-- What is held, in terms of the messages decoded since a synchronisation. -/
theorem held_accepted (hstart : ∀ a, I { arfcn := a } []) (cfg : CatcherConfig)
    (env : Surroundings) {c : Catcher} {a : ℕ} (hc : tuned (c.startSync cfg env).2 = some a)
    {es : List (CatcherEvent × Surroundings)}
    (hes : tuned ((catcher cfg).run (c.startSync cfg env).1 es).2 = none) :
    I ((catcher cfg).run (c.startSync cfg env).1 es).1.sysinfo
      (acceptedAlong cfg (c.startSync cfg env).1 es) :=
  (acceptedAlong_gathers cfg).held (takenIn_accepted hbsic hdecode) (hstart a) env hc hes

/-- What is printed, in the same terms. -/
theorem report_accepted (hstart : ∀ a, I { arfcn := a } []) (cfg : CatcherConfig)
    (env : Surroundings) {c : Catcher} {a : ℕ} (hc : tuned (c.startSync cfg env).2 = some a)
    {es : List (CatcherEvent × Surroundings)}
    (hes : tuned ((catcher cfg).run (c.startSync cfg env).1 es).2 = none)
    {e : CatcherEvent × Surroundings} {s : Gsm48Sysinfo}
    (hs : s ∈ reports (step cfg ((catcher cfg).run (c.startSync cfg env).1 es).1 e).2) :
    I s (acceptedAlong cfg (c.startSync cfg env).1 (es ++ [e])) :=
  (acceptedAlong_gathers cfg).report (takenIn_accepted hbsic hdecode) (hstart a) env hc hes hs

end rule

end Catcher
end ImsiCatcher

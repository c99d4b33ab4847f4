import ImsiCatcher.Machine

/-!
# Two runs of a machine, until a step that stops

A run is cut behind the first step whose event and outputs say so. Two runs are compared
under the condition that their events agree until one of them is cut. If a relation on the
states is kept by every step that does not stop, and related states show the same, then what
the two runs show until they are cut is the same.
-/

universe u v w x

namespace Machine
variable {σ : Type u} {ε : Type v} {ο : Type w} {γ : Type x} (M : Machine σ ε ο)
  (stop : ε → List ο → Bool)

/-- The outputs up to the first step that stops, with that step. -/
def runUntil (s : σ) : List ε → List ο
  | [] => []
  | e :: es => (M.step s e).2 ++
      if stop e (M.step s e).2 then [] else runUntil (M.step s e).1 es

/-- The events agree until one of the runs stops. -/
def AgreeUntil (R : ε → ε → Prop) (s s' : σ) : List ε → List ε → Prop
  | [], [] => True
  | e :: es, e' :: es' => R e e' ∧
      (stop e (M.step s e).2 = false → stop e' (M.step s' e').2 = false →
        AgreeUntil R (M.step s e).1 (M.step s' e').1 es es')
  | _, _ => False

/-- How many steps up to the first that stops meet `P`. -/
def stepsUntil (P : σ → ε → Bool) (s : σ) : List ε → ℕ
  | [] => 0
  | e :: es => (P s e).toNat +
      if stop e (M.step s e).2 then 0 else stepsUntil P (M.step s e).1 es

variable {M stop}

theorem agreeUntil_self {R : ε → ε → Prop} {s s' : σ} {es : List ε} (h : ∀ e ∈ es, R e e) :
    M.AgreeUntil stop R s s' es es := by
  induction es generalizing s s' with
  | nil => trivial
  | cons e es ih =>
    rw [List.forall_mem_cons] at h
    exact ⟨h.1, fun _ _ => ih h.2⟩

theorem filterMap_runUntil_eq {R : ε → ε → Prop} {I : σ → σ → Prop} {shown : ο → Option γ}
    (hstep : ∀ s s' e e', I s s' → R e e' →
      (M.step s e).2.filterMap shown = (M.step s' e').2.filterMap shown ∧
      stop e (M.step s e).2 = stop e' (M.step s' e').2 ∧
      (stop e (M.step s e).2 = false → I (M.step s e).1 (M.step s' e').1))
    {s s' : σ} {es es' : List ε} (hI : I s s') (h : M.AgreeUntil stop R s s' es es') :
    (M.runUntil stop s es).filterMap shown = (M.runUntil stop s' es').filterMap shown := by
  induction es generalizing s s' es' with
  | nil =>
    cases es' with
    | nil => rfl
    | cons e' es' => exact absurd h id
  | cons e es ih =>
    cases es' with
    | nil => exact absurd h id
    | cons e' es' =>
      obtain ⟨hshown, hstop, hnext⟩ := hstep s s' e e' hI h.1
      rw [runUntil, runUntil, List.filterMap_append, List.filterMap_append, hshown, ← hstop]
      cases hcut : stop e (M.step s e).2 with
      | true => rfl
      | false => exact congrArg _ (ih (hnext hcut) (h.2 hcut (hstop ▸ hcut)))

/-- If a step that shows something stops, and shows no more than `n` things, so does a run. -/
theorem length_filterMap_runUntil_le {shown : ο → Option γ} {n : ℕ}
    (hstep : ∀ s e, ((M.step s e).2.filterMap shown).length ≤ n ∧
      (stop e (M.step s e).2 = false → (M.step s e).2.filterMap shown = [])) (s : σ)
    (es : List ε) : ((M.runUntil stop s es).filterMap shown).length ≤ n := by
  induction es generalizing s with
  | nil => exact Nat.zero_le n
  | cons e es ih =>
    rw [runUntil, List.filterMap_append]
    cases hcut : stop e (M.step s e).2 with
    | true =>
      rw [if_pos rfl, List.filterMap_nil, List.append_nil]
      exact (hstep s e).1
    | false =>
      rw [(hstep s e).2 hcut, List.nil_append]
      exact ih _

/-- A relation of the state to the outputs and to the steps counted so far bounds the outputs a
run counts, if the steps that do not stop keep it as long as no more than `m` of them meet `P`. -/
theorem countP_runUntil_le {P : σ → ε → Bool} {J : σ → ℕ → ℕ → Prop} {counts : ο → Bool}
    {m n : ℕ} (hbound : ∀ s q k, J s q k → q ≤ n)
    (hstep : ∀ s q k e, J s q k → k + (P s e).toNat ≤ m →
      q + (M.step s e).2.countP counts ≤ n ∧ (stop e (M.step s e).2 = false →
        J (M.step s e).1 (q + (M.step s e).2.countP counts) (k + (P s e).toNat)))
    {s : σ} {q k : ℕ} {es : List ε} (hJ : J s q k) (hP : k + M.stepsUntil stop P s es ≤ m) :
    q + (M.runUntil stop s es).countP counts ≤ n := by
  induction es generalizing s q k with
  | nil => exact hbound s q k hJ
  | cons e es ih =>
    rw [stepsUntil, ← Nat.add_assoc] at hP
    obtain ⟨hcount, hnext⟩ := hstep s q k e hJ (Nat.le_of_add_right_le hP)
    rw [runUntil, List.countP_append]
    cases hcut : stop e (M.step s e).2 with
    | true =>
      rw [if_pos rfl, List.countP_nil]
      exact hcount
    | false =>
      rw [hcut, if_neg Bool.false_ne_true] at hP
      rw [if_neg Bool.false_ne_true, ← Nat.add_assoc]
      exact ih (hnext hcut) hP

end Machine

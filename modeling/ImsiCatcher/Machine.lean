import Mathlib.Data.List.Induction

/-!
# Event-driven machines and their runs

A machine takes one event at a time, moves to a next state and lets out a list of
outputs. A run is the fold of the steps over a list of events. `Along` asks a
condition on the state before the step and on the event of every step of a run.

The rules below carry an invariant, or a property of the outputs, from one step to a
whole run. They are stated for a condition on the steps, so that a result may assume
what the environment does without assuming it of the states.
-/

universe u v w

/-- One event at a time: the next state, and what the step lets out. -/
structure Machine (σ : Type u) (ε : Type v) (ο : Type w) where
  step : σ → ε → σ × List ο

namespace Machine
variable {σ : Type u} {ε : Type v} {ο : Type w} (M : Machine σ ε ο)

def run (s : σ) : List ε → σ × List ο
  | [] => (s, [])
  | e :: es => ((run (M.step s e).1 es).1, (M.step s e).2 ++ (run (M.step s e).1 es).2)

/-- Every step of the run meets `P`, a condition on the state before it and its event. -/
def Along (P : σ → ε → Prop) (s : σ) : List ε → Prop
  | [] => True
  | e :: es => P s e ∧ Along P (M.step s e).1 es

@[simp] theorem run_nil (s : σ) : M.run s [] = (s, []) := rfl

@[simp] theorem run_cons (s : σ) (e : ε) (es : List ε) :
    M.run s (e :: es) =
      ((M.run (M.step s e).1 es).1, (M.step s e).2 ++ (M.run (M.step s e).1 es).2) := rfl

theorem run_append (s : σ) (es es' : List ε) :
    M.run s (es ++ es') =
      ((M.run (M.run s es).1 es').1, (M.run s es).2 ++ (M.run (M.run s es).1 es').2) := by
  induction es generalizing s with
  | nil => rfl
  | cons e es ih => rw [List.cons_append, run_cons, ih, run_cons, List.append_assoc]

@[simp] theorem along_nil (P : σ → ε → Prop) (s : σ) : M.Along P s [] := trivial

@[simp] theorem along_cons (P : σ → ε → Prop) (s : σ) (e : ε) (es : List ε) :
    M.Along P s (e :: es) ↔ P s e ∧ M.Along P (M.step s e).1 es := Iff.rfl

theorem along_append (P : σ → ε → Prop) (s : σ) (es es' : List ε) :
    M.Along P s (es ++ es') ↔ M.Along P s es ∧ M.Along P (M.run s es).1 es' := by
  induction es generalizing s with
  | nil => simp
  | cons e es ih => rw [List.cons_append, along_cons, ih, along_cons, run_cons, and_assoc]

instance decidableAlong (P : σ → ε → Prop) [∀ s e, Decidable (P s e)] :
    ∀ (s : σ) (es : List ε), Decidable (M.Along P s es)
  | _, [] => inferInstanceAs (Decidable True)
  | s, e :: es =>
    have := decidableAlong P (M.step s e).1 es
    inferInstanceAs (Decidable (P s e ∧ M.Along P (M.step s e).1 es))

/-- What one step preserves under `P`, a run preserves whose steps all meet `P`. -/
theorem invariant_run {P : σ → ε → Prop} {I : σ → Prop}
    (hstep : ∀ s e, I s → P s e → I (M.step s e).1) {s : σ} {es : List ε}
    (hI : I s) (hP : M.Along P s es) : I (M.run s es).1 := by
  induction es generalizing s with
  | nil => exact hI
  | cons e es ih => exact ih (hstep s e hI hP.1) hP.2

/-- What every step preserves, every run preserves. -/
theorem always_run {I : σ → Prop} (hstep : ∀ s e, I s → I (M.step s e).1) {s : σ} (hI : I s)
    (es : List ε) : I (M.run s es).1 := by
  induction es generalizing s with
  | nil => exact hI
  | cons e es ih => exact ih (hstep s e hI)

/-- Where `P` says which steps keep an invariant, it holds in every state that a run reaches
just when all steps of the run meet `P`. -/
theorem reached_iff_along {P : σ → ε → Prop} {I : σ → Prop}
    (hstep : ∀ s e, I s → (I (M.step s e).1 ↔ P s e)) {s : σ} {es : List ε} (hI : I s) :
    (∀ n, I (M.run s (es.take n)).1) ↔ M.Along P s es := by
  induction es generalizing s with
  | nil => simp [hI]
  | cons e es ih =>
    rw [along_cons, ← hstep s e hI]
    constructor
    · intro h
      have hnext : I (M.step s e).1 := h 1
      exact ⟨hnext, (ih hnext).1 fun n => h (n + 1)⟩
    · rintro ⟨hnext, hrest⟩ n
      cases n with
      | zero => exact hI
      | succ n => exact (ih hnext).2 hrest n

/-- Where `P` says which steps keep a property of the events so far, it holds of every prefix of
a run just when all steps of the run meet `P`. -/
theorem prefixes_iff_along {P : σ → ε → Prop} {I : List ε → Prop} {s : σ} {es : List ε}
    (hI : I [])
    (hstep : ∀ before e, before ++ [e] <+: es → I before →
      (I (before ++ [e]) ↔ P (M.run s before).1 e)) :
    (∀ n, I (es.take n)) ↔ M.Along P s es := by
  induction es using List.reverseRecOn with
  | nil => simp [hI]
  | append_singleton es e ih =>
    have hes := ih fun before e' hfront =>
      hstep before e' (hfront.trans (List.prefix_append es [e]))
    have htake : (∀ n, I ((es ++ [e]).take n)) ↔ (∀ n, I (es.take n)) ∧ I (es ++ [e]) := by
      constructor
      · intro h
        have hall := h (es ++ [e]).length
        rw [List.take_length] at hall
        refine ⟨fun n => ?_, hall⟩
        have hmin := h (min n es.length)
        rwa [List.take_append_of_le_length (Nat.min_le_right _ _), ← List.take_take,
          List.take_length] at hmin
      · rintro ⟨hall, hlast⟩ n
        rcases Nat.lt_or_ge es.length n with hn | hn
        · have hlong : (es ++ [e]).length ≤ n := by rwa [List.length_append, List.length_singleton]
          rw [List.take_of_length_le hlong]
          exact hlast
        · rw [List.take_append_of_le_length hn]
          exact hall n
    rw [htake, along_append, along_cons, hes]
    constructor
    · rintro ⟨halong, hlast⟩
      have hbefore : I es := by simpa using hes.2 halong es.length
      exact ⟨halong, (hstep es e List.prefix_rfl hbefore).1 hlast, trivial⟩
    · rintro ⟨halong, hmeets, -⟩
      have hbefore : I es := by simpa using hes.2 halong es.length
      exact ⟨halong, (hstep es e List.prefix_rfl hbefore).2 hmeets⟩

/-- If an invariant bounds what one step lets out, it bounds what a run lets out. -/
theorem outputs_run {P : σ → ε → Prop} {I : σ → Prop} {Q : ο → Prop}
    (hstep : ∀ s e, I s → P s e → I (M.step s e).1)
    (hout : ∀ s e, I s → P s e → ∀ o ∈ (M.step s e).2, Q o) {s : σ} {es : List ε}
    (hI : I s) (hP : M.Along P s es) : ∀ o ∈ (M.run s es).2, Q o := by
  induction es generalizing s with
  | nil => simp
  | cons e es ih =>
    intro o ho
    rw [run_cons, List.mem_append] at ho
    rcases ho with ho | ho
    · exact hout s e hI hP.1 o ho
    · exact ih (hstep s e hI hP.1) hP.2 o ho

/-- Where `P` says which steps let out nothing that breaks `Q`, and these keep an invariant, a run
lets out nothing that breaks `Q` just when all its steps meet `P`. -/
theorem outputs_iff_along {P : σ → ε → Prop} {I : σ → Prop} {Q : ο → Prop}
    (hstep : ∀ s e, I s → P s e → I (M.step s e).1)
    (hout : ∀ s e, I s → ((∀ o ∈ (M.step s e).2, Q o) ↔ P s e)) {s : σ} {es : List ε} (hI : I s) :
    (∀ o ∈ (M.run s es).2, Q o) ↔ M.Along P s es := by
  induction es generalizing s with
  | nil => simp
  | cons e es ih =>
    rw [run_cons, List.forall_mem_append, hout s e hI, along_cons]
    exact and_congr_right fun hmeets => ih (hstep s e hI hmeets)

/-- An invariant of the state and of what was let out so far, under a condition on the steps. -/
theorem history_along {P : σ → ε → Prop} {J : σ → List ο → Prop}
    (hstep : ∀ s os e, J s os → P s e → J (M.step s e).1 (os ++ (M.step s e).2)) {s : σ}
    {os : List ο} {es : List ε} (hJ : J s os) (hP : M.Along P s es) :
    J (M.run s es).1 (os ++ (M.run s es).2) := by
  induction es generalizing s os with
  | nil => rwa [run_nil, List.append_nil]
  | cons e es ih =>
    rw [run_cons, ← List.append_assoc]
    exact ih (hstep s os e hJ hP.1) hP.2

theorem along_true (s : σ) (es : List ε) : M.Along (fun _ _ => True) s es := by
  induction es generalizing s with
  | nil => trivial
  | cons e es ih => exact ⟨trivial, ih _⟩

/-- An invariant of the state and of what was let out so far. -/
theorem history_run {J : σ → List ο → Prop}
    (hstep : ∀ s os e, J s os → J (M.step s e).1 (os ++ (M.step s e).2)) {s : σ} {os : List ο}
    (hJ : J s os) (es : List ε) : J (M.run s es).1 (os ++ (M.run s es).2) :=
  M.history_along (P := fun _ _ => True) (fun s os e hs _ => hstep s os e hs) hJ
    (M.along_true s es)

/-- An invariant of the events so far and of the state that they lead to. -/
theorem trace_run {J : List ε → σ → Prop} {s : σ}
    (hstep : ∀ before s e, J before s → J (before ++ [e]) (M.step s e).1) (hJ : J [] s)
    (es : List ε) : J es (M.run s es).1 := by
  induction es using List.reverseRecOn with
  | nil => exact hJ
  | append_singleton es e ih =>
    rw [run_append]
    exact hstep es _ e ih

/-- What one step of two machines keeps and lets out alike, their runs do. -/
theorem simulates_run {τ : Type*} {N : Machine τ ε ο} {R : σ → τ → Prop}
    (hstep : ∀ s t e, R s t → R (M.step s e).1 (N.step t e).1 ∧ (M.step s e).2 = (N.step t e).2)
    {s : σ} {t : τ} (hR : R s t) (es : List ε) :
    R (M.run s es).1 (N.run t es).1 ∧ (M.run s es).2 = (N.run t es).2 := by
  induction es generalizing s t with
  | nil => exact ⟨hR, rfl⟩
  | cons e es ih =>
    obtain ⟨hnext, hout⟩ := hstep s t e hR
    obtain ⟨hend, houts⟩ := ih hnext
    rw [run_cons, run_cons, hout, houts]
    exact ⟨hend, rfl⟩

/-- Where what one step of a machine lets out, some steps of a second one let out, and the two
stay in relation, each run of the first is matched by a run of the second. -/
theorem refines_run {τ ε' : Type*} {N : Machine τ ε' ο} {R : σ → τ → Prop}
    (hstep : ∀ s t e, R s t → ∃ es', R (M.step s e).1 (N.run t es').1 ∧
      (M.step s e).2 = (N.run t es').2) {s : σ} {t : τ} (hR : R s t) (es : List ε) :
    ∃ es', R (M.run s es).1 (N.run t es').1 ∧ (M.run s es).2 = (N.run t es').2 := by
  induction es generalizing s t with
  | nil => exact ⟨[], hR, rfl⟩
  | cons e es ih =>
    obtain ⟨first, hnext, hout⟩ := hstep s t e hR
    obtain ⟨rest, hend, houts⟩ := ih hnext
    refine ⟨first ++ rest, ?_⟩
    rw [run_cons, N.run_append, hout, houts]
    exact ⟨hend, rfl⟩

theorem run_silent {s : σ} {es : List ε} (hes : ∀ e ∈ es, ∀ s, (M.step s e).2 = []) :
    (M.run s es).2 = [] := by
  induction es generalizing s with
  | nil => rfl
  | cons e es ih =>
    rw [List.forall_mem_cons] at hes
    rw [run_cons, hes.1, List.nil_append]
    exact ih hes.2

/-- A history beside the state: it follows the steps, and no step looks at it. -/
def withHistory {κ : Type*} (next : σ → κ → ε → κ) : Machine (σ × κ) ε ο :=
  ⟨fun s e => (((M.step s.1 e).1, next s.1 s.2 e), (M.step s.1 e).2)⟩

theorem withHistory_run {κ : Type*} (next : σ → κ → ε → κ) (s : σ) (k : κ) (es : List ε) :
    (M.run s es).1 = ((M.withHistory next).run (s, k) es).1.1 ∧
      (M.run s es).2 = ((M.withHistory next).run (s, k) es).2 := by
  refine M.simulates_run (N := M.withHistory next) (R := fun s t => s = t.1) (t := (s, k))
    (fun s t e hs => ?_) rfl es
  subst hs
  exact ⟨rfl, rfl⟩

theorem withHistory_along {κ : Type*} (next : σ → κ → ε → κ) {P : σ → ε → Prop} {s : σ}
    {es : List ε} (h : M.Along P s es) (k : κ) :
    (M.withHistory next).Along (fun p e => P p.1 e) (s, k) es := by
  induction es generalizing s k with
  | nil => trivial
  | cons e es ih => exact ⟨h.1, ih h.2 (next s k e)⟩

/-- Where a bound on the history says which steps let out nothing that breaks `Q`, a run lets
out nothing that breaks `Q` just when the history stays within the bound. -/
theorem outputs_iff_history {κ : Type*} {next : σ → κ → ε → κ} {I : σ → κ → Prop} {B : κ → Prop}
    {Q : ο → Prop}
    (hstep : ∀ s k e, I s k → B (next s k e) → I (M.step s e).1 (next s k e))
    (hout : ∀ s k e, I s k → ((∀ o ∈ (M.step s e).2, Q o) ↔ B (next s k e)))
    {s : σ} {k : κ} (hI : I s k) (hB : B k) (es : List ε) :
    (∀ o ∈ (M.run s es).2, Q o) ↔
      ∀ n, B ((M.withHistory next).run (s, k) (es.take n)).1.2 := by
  have hreads : (∀ o ∈ ((M.withHistory next).run (s, k) es).2, Q o) ↔
      (M.withHistory next).Along (fun p e => B (next p.1 p.2 e)) (s, k) es :=
    (M.withHistory next).outputs_iff_along (I := fun p => I p.1 p.2)
      (fun p e h hnext => hstep p.1 p.2 e h hnext) (fun p e h => hout p.1 p.2 e h) hI
  have hbound : (∀ n, B ((M.withHistory next).run (s, k) (es.take n)).1.2) ↔
      (M.withHistory next).Along (fun p e => B (next p.1 p.2 e)) (s, k) es :=
    (M.withHistory next).reached_iff_along (I := fun p => B p.2) (fun _ _ _ => Iff.rfl) hB
  rw [(M.withHistory_run next s k es).2]
  exact hreads.trans hbound.symm

/-- What a run lets out, one of its steps lets out. -/
theorem exists_step_of_mem_run {s : σ} {es : List ε} {o : ο} (ho : o ∈ (M.run s es).2) :
    ∃ before e, before ++ [e] <+: es ∧ o ∈ (M.step (M.run s before).1 e).2 := by
  induction es using List.reverseRecOn with
  | nil => exact absurd ho List.not_mem_nil
  | append_singleton es e ih =>
    rw [run_append, List.mem_append] at ho
    rcases ho with ho | ho
    · obtain ⟨before, e', hfront, hout⟩ := ih ho
      exact ⟨before, e', hfront.trans (List.prefix_append es [e]), hout⟩
    · rw [run_cons, run_nil, List.append_nil] at ho
      exact ⟨es, e, List.prefix_rfl, ho⟩

/-- From a state, the machine can go on until it lets out what meets `Q`. -/
def CanGive (s : σ) (Q : ο → Prop) : Prop := ∃ es, ∃ o ∈ (M.run s es).2, Q o

variable {M}

theorem CanGive.of_out {s : σ} {Q : ο → Prop} (e : ε) {o : ο} (ho : o ∈ (M.step s e).2)
    (hQ : Q o) : M.CanGive s Q := by
  refine ⟨[e], o, ?_, hQ⟩
  rw [run_cons]
  exact List.mem_append_left _ ho

theorem CanGive.of_step {s : σ} {Q : ο → Prop} (e : ε) (h : M.CanGive (M.step s e).1 Q) :
    M.CanGive s Q := by
  obtain ⟨es, o, ho, hQ⟩ := h
  refine ⟨e :: es, o, ?_, hQ⟩
  rw [run_cons]
  exact List.mem_append_right _ ho

/-- Where each state that meets `I` has a step that leads on, by letting something out or by
taking off some of the work that is left, the machine goes on. -/
theorem canGive_of_work {I : σ → Prop} {Q : ο → Prop} (work : σ → ℕ)
    (hstep : ∀ s, I s → M.CanGive s Q ∨
      ∃ e, I (M.step s e).1 ∧ work (M.step s e).1 < work s) {s : σ} (hI : I s) :
    M.CanGive s Q := by
  induction hwork : work s using Nat.strongRecOn generalizing s with
  | ind k ih =>
    rcases hstep s hI with hgives | ⟨e, hI', hless⟩
    · exact hgives
    · exact .of_step e (ih _ (hwork ▸ hless) hI' rfl)

variable (M)

/-- From a state, the machine can let out just `os` and come to a state that meets `Q`. -/
def Reaches (s : σ) (os : List ο) (Q : σ → Prop) : Prop :=
  ∃ es, (M.run s es).2 = os ∧ Q (M.run s es).1

variable {M} {s : σ} {os os' : List ο} {Q Q' : σ → Prop}

theorem Reaches.here (hQ : Q s) : M.Reaches s [] Q := ⟨[], rfl, hQ⟩

theorem Reaches.of_step (e : ε) (hout : (M.step s e).2 = os) (hQ : Q (M.step s e).1) :
    M.Reaches s os Q :=
  ⟨[e], (List.append_nil _).trans hout, hQ⟩

theorem Reaches.cons {e : ε} {s' : σ} (hstep : M.step s e = (s', os)) (h : M.Reaches s' os' Q) :
    M.Reaches s (os ++ os') Q := by
  obtain ⟨es, rfl, hQ⟩ := h
  refine ⟨e :: es, ?_⟩
  rw [run_cons, hstep]
  exact ⟨rfl, hQ⟩

theorem Reaches.bind (h : M.Reaches s os Q) (h' : ∀ s', Q s' → M.Reaches s' os' Q') :
    M.Reaches s (os ++ os') Q' := by
  obtain ⟨es, rfl, hQ⟩ := h
  obtain ⟨es', rfl, hQ'⟩ := h' _ hQ
  refine ⟨es ++ es', ?_⟩
  rw [run_append]
  exact ⟨rfl, hQ'⟩

end Machine

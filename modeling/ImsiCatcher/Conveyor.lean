import ImsiCatcher.Machine

/-!
# Machines that convey items

A machine conveys items where each step lets out, in front, what it held or was just given, and
goes on holding the rest. `Holds` says which items a state holds; it may carry an invariant of
the state as well. A run then lets out a prefix of all that was put in, and all of it once nothing
is held. Where the outputs of one machine are events of a second one, both together convey items
again.
-/

universe u v w x y z

namespace Machine
variable {σ : Type u} {ε : Type v} {ο : Type w} {α : Type x} {τ : Type y} {ε' : Type z}

/-- One step under `ok` keeps the order of the items: what comes out and what is held after it
are what was held before and what the event puts in. -/
def Conveys (M : Machine σ ε ο) (Holds : σ → List α → Prop) (ok : ε → Prop) (put : ε → List α)
    (get : ο → List α) : Prop :=
  ∀ s items e, Holds s items → ok e → ∃ rest, Holds (M.step s e).1 rest ∧
    (M.step s e).2.flatMap get ++ rest = items ++ put e

section Run
variable {M : Machine σ ε ο} {Holds : σ → List α → Prop} {ok : ε → Prop} {put : ε → List α}
  {get : ο → List α}

theorem Conveys.run (hM : M.Conveys Holds ok put get) {s : σ} {items : List α}
    (hs : Holds s items) {es : List ε} (hok : ∀ e ∈ es, ok e) :
    ∃ rest, Holds (M.run s es).1 rest ∧
      (M.run s es).2.flatMap get ++ rest = items ++ es.flatMap put := by
  induction es generalizing s items with
  | nil => exact ⟨items, hs, by simp⟩
  | cons e es ih =>
    rw [List.forall_mem_cons] at hok
    obtain ⟨mid, hmid, hstep⟩ := hM s items e hs hok.1
    obtain ⟨rest, hrest, hrun⟩ := ih hmid hok.2
    refine ⟨rest, hrest, ?_⟩
    rw [run_cons, List.flatMap_append, List.append_assoc, hrun, ← List.append_assoc, hstep,
      List.flatMap_cons, List.append_assoc]

/-- Nothing is lost, doubled or brought into another order. -/
theorem Conveys.prefix_run (hM : M.Conveys Holds ok put get) {s : σ} (hs : Holds s [])
    {es : List ε} (hok : ∀ e ∈ es, ok e) :
    (M.run s es).2.flatMap get <+: es.flatMap put := by
  obtain ⟨rest, -, hrun⟩ := hM.run hs hok
  exact ⟨rest, hrun⟩

/-- Where the last state can hold nothing, all has come out. -/
theorem Conveys.drained_run (hM : M.Conveys Holds ok put get) {s : σ} (hs : Holds s [])
    {es : List ε} (hok : ∀ e ∈ es, ok e)
    (hdrained : ∀ rest, Holds (M.run s es).1 rest → rest = []) :
    (M.run s es).2.flatMap get = es.flatMap put := by
  obtain ⟨rest, hrest, hrun⟩ := hM.run hs hok
  rwa [hdrained rest hrest, List.append_nil] at hrun

/-- Steps that let out nothing put their items behind those that are held. -/
theorem Conveys.silent_run (hM : M.Conveys Holds ok put get) {s : σ} {items : List α}
    (hs : Holds s items) {es : List ε} (hok : ∀ e ∈ es, ok e) (hsilent : (M.run s es).2 = []) :
    Holds (M.run s es).1 (items ++ es.flatMap put) := by
  obtain ⟨rest, hrest, hrun⟩ := hM.run hs hok
  rw [hsilent, List.flatMap_nil, List.nil_append] at hrun
  rwa [← hrun]

/-- What holds of all that is put in holds of all that is held. -/
theorem Conveys.restrict (hM : M.Conveys Holds ok put get) {P : α → Prop}
    (hput : ∀ e, ok e → ∀ a ∈ put e, P a) :
    M.Conveys (fun s items => Holds s items ∧ ∀ a ∈ items, P a) ok put get := by
  intro s items e hs hok
  obtain ⟨rest, hrest, hstep⟩ := hM s items e hs.1 hok
  have hall : ∀ a ∈ items ++ put e, P a := List.forall_mem_append.2 ⟨hs.2, hput e hok⟩
  rw [← hstep, List.forall_mem_append] at hall
  exact ⟨rest, ⟨hrest, hall.2⟩, hstep⟩

theorem Conveys.forall_get (hM : M.Conveys Holds ok put get) {P : α → Prop}
    (hput : ∀ e, ok e → ∀ a ∈ put e, P a) {s : σ} {items : List α} (hs : Holds s items)
    (hitems : ∀ a ∈ items, P a) {e : ε} (hok : ok e) :
    ∀ o ∈ (M.step s e).2, ∀ a ∈ get o, P a := by
  obtain ⟨rest, -, hstep⟩ := hM s items e hs hok
  have hall : ∀ a ∈ items ++ put e, P a := List.forall_mem_append.2 ⟨hitems, hput e hok⟩
  rw [← hstep, List.forall_mem_append] at hall
  exact fun o ho a ha => hall.1 a (List.mem_flatMap.2 ⟨o, ho, ha⟩)

end Run

/-- The outputs of the first machine are events of the second, in the same step. -/
def cascade {ο' : Type w} (M : Machine σ ε ο) (N : Machine τ ε' ο') (feed : ο → List ε') :
    Machine (σ × τ) (ε ⊕ ε') ο' where
  step s
    | .inl e =>
      let r := M.step s.1 e
      let q := N.run s.2 (r.2.flatMap feed)
      ((r.1, q.1), q.2)
    | .inr e =>
      let q := N.step s.2 e
      ((s.1, q.1), q.2)

def HoldsBoth (Holds : σ → List α → Prop) (Holds' : τ → List α → Prop) (s : σ × τ)
    (items : List α) : Prop :=
  ∃ first second, Holds s.1 first ∧ Holds' s.2 second ∧ items = second ++ first

theorem Conveys.cascade {ο' : Type w} {M : Machine σ ε ο} {N : Machine τ ε' ο'}
    {Holds : σ → List α → Prop} {Holds' : τ → List α → Prop} {ok : ε → Prop} {ok' : ε' → Prop}
    {put : ε → List α} {put' : ε' → List α} {get : ο → List α} {get' : ο' → List α}
    {feed : ο → List ε'} (hM : M.Conveys Holds ok put get) (hN : N.Conveys Holds' ok' put' get')
    (hfeed : ∀ o, (feed o).flatMap put' = get o)
    (hok : ∀ s items e, Holds s items → ok e → ∀ o ∈ (M.step s e).2, ∀ e' ∈ feed o, ok' e') :
    (M.cascade N feed).Conveys (HoldsBoth Holds Holds')
      (Sum.elim ok fun e => ok' e ∧ put' e = []) (Sum.elim put fun _ => []) get' := by
  rintro s items e ⟨first, second, hfirst, hsecond, rfl⟩ he
  cases e with
  | inl e =>
    obtain ⟨first', hfirst', hstep⟩ := hM s.1 first e hfirst he
    have hfed : ∀ e' ∈ (M.step s.1 e).2.flatMap feed, ok' e' := by
      intro e' he'
      obtain ⟨o, ho, he'⟩ := List.mem_flatMap.1 he'
      exact hok s.1 first e hfirst he o ho e' he'
    obtain ⟨second', hsecond', hrun⟩ := hN.run hsecond hfed
    have hput : ((M.step s.1 e).2.flatMap feed).flatMap put' = (M.step s.1 e).2.flatMap get := by
      rw [List.flatMap_assoc, funext hfeed]
    refine ⟨second' ++ first', ⟨first', second', hfirst', hsecond', rfl⟩, ?_⟩
    change (N.run s.2 ((M.step s.1 e).2.flatMap feed)).2.flatMap get' ++ (second' ++ first') =
      second ++ first ++ put e
    rw [← List.append_assoc, hrun, hput, List.append_assoc, hstep, List.append_assoc]
  | inr e =>
    obtain ⟨second', hsecond', hstep⟩ := hN s.2 second e hsecond he.1
    refine ⟨second' ++ first, ⟨first, second', hfirst, hsecond', rfl⟩, ?_⟩
    change (N.step s.2 e).2.flatMap get' ++ (second' ++ first) = second ++ first ++ []
    rw [← List.append_assoc, hstep, he.2, List.append_nil, List.append_nil]

section Cascade
variable {ο' : Type w} {M : Machine σ ε ο} {N : Machine τ ε' ο'} {feed : ο → List ε'}

theorem cascade_run_inl (s : σ) (t : τ) (es : List ε) :
    (M.cascade N feed).run (s, t) (es.map .inl) =
      (((M.run s es).1, (N.run t ((M.run s es).2.flatMap feed)).1),
        (N.run t ((M.run s es).2.flatMap feed)).2) := by
  induction es generalizing s t with
  | nil => rfl
  | cons e es ih =>
    rw [List.map_cons, run_cons, run_cons, List.flatMap_append, run_append]
    exact congrArg (fun r : (σ × τ) × List ο' => (r.1, _ ++ r.2)) (ih _ _)

theorem cascade_run_inr (s : σ) (t : τ) (es : List ε') :
    (M.cascade N feed).run (s, t) (es.map .inr) = ((s, (N.run t es).1), (N.run t es).2) := by
  induction es generalizing t with
  | nil => rfl
  | cons e es ih =>
    rw [List.map_cons, run_cons, run_cons]
    exact congrArg (fun r : (σ × τ) × List ο' => (r.1, _ ++ r.2)) (ih _)

end Cascade

/-- From every state that holds items there is a run without new items after which none is
held. -/
def Drains (M : Machine σ ε ο) (Holds : σ → List α → Prop) (ok : ε → Prop)
    (put : ε → List α) : Prop :=
  ∀ s items, Holds s items → ∃ es, (∀ e ∈ es, ok e ∧ put e = []) ∧
    ∀ rest, Holds (M.run s es).1 rest → rest = []

/-- Whatever happened so far, all that was put in comes out after some more steps. -/
theorem Conveys.exists_complete {M : Machine σ ε ο} {Holds : σ → List α → Prop} {ok : ε → Prop}
    {put : ε → List α} {get : ο → List α} (hM : M.Conveys Holds ok put get)
    (hdrains : M.Drains Holds ok put) {s : σ} (hs : Holds s []) {es : List ε}
    (hok : ∀ e ∈ es, ok e) :
    ∃ more, (∀ e ∈ more, ok e ∧ put e = []) ∧
      (M.run s (es ++ more)).2.flatMap get = es.flatMap put := by
  obtain ⟨items, hitems, -⟩ := hM.run hs hok
  obtain ⟨more, hmore, hlast⟩ := hdrains _ items hitems
  have hall : ∀ e ∈ es ++ more, ok e :=
    List.forall_mem_append.2 ⟨hok, fun e he => (hmore e he).1⟩
  have hsilent : more.flatMap put = [] := List.flatMap_eq_nil_iff.2 fun e he => (hmore e he).2
  refine ⟨more, hmore, ?_⟩
  rw [hM.drained_run hs hall (by rwa [run_append]), List.flatMap_append, hsilent,
    List.append_nil]

theorem Drains.cascade {ο' : Type w} {M : Machine σ ε ο} {N : Machine τ ε' ο'}
    {Holds : σ → List α → Prop} {Holds' : τ → List α → Prop} {ok : ε → Prop} {ok' : ε' → Prop}
    {put : ε → List α} {put' : ε' → List α} {get' : ο' → List α}
    {feed : ο → List ε'} (hdrains : M.Drains Holds ok put) (hdrains' : N.Drains Holds' ok' put')
    (hboth : (M.cascade N feed).Conveys (HoldsBoth Holds Holds')
      (Sum.elim ok fun e => ok' e ∧ put' e = []) (Sum.elim put fun _ => []) get') :
    (M.cascade N feed).Drains (HoldsBoth Holds Holds')
      (Sum.elim ok fun e => ok' e ∧ put' e = []) (Sum.elim put fun _ => []) := by
  rintro ⟨s, t⟩ items hitems
  obtain ⟨first, second, hfirst, hsecond, -⟩ := id hitems
  obtain ⟨es, hes, hempty⟩ := hdrains s first hfirst
  have hes' : ∀ e ∈ es.map Sum.inl, Sum.elim ok (fun e => ok' e ∧ put' e = []) e := by
    intro e he
    obtain ⟨e₁, he₁, rfl⟩ := List.mem_map.1 he
    exact (hes e₁ he₁).1
  obtain ⟨rest, ⟨_, second', -, hsecond', -⟩, -⟩ := hboth.run hitems hes'
  rw [cascade_run_inl] at hsecond'
  obtain ⟨es', hes'', hempty'⟩ := hdrains' _ second' hsecond'
  refine ⟨es.map .inl ++ es'.map .inr, ?_, ?_⟩
  · refine List.forall_mem_append.2 ⟨fun e he => ?_, fun e he => ?_⟩
    · obtain ⟨e₁, he₁, rfl⟩ := List.mem_map.1 he
      exact hes e₁ he₁
    · obtain ⟨e₁, he₁, rfl⟩ := List.mem_map.1 he
      exact ⟨hes'' e₁ he₁, rfl⟩
  · rw [run_append, cascade_run_inl, cascade_run_inr]
    rintro rest ⟨first', second'', hfirst', hsecond'', rfl⟩
    rw [hempty first' hfirst', hempty' second'' hsecond'', List.append_nil]

/-- Where the first machine drains silently into the second, and that lets out its first item
when it is asked to, both together can let out the first item that they hold, and no other. -/
theorem Conveys.cascade_next {β : Type w} {M : Machine σ ε ο} {N : Machine τ ε' β}
    {Holds : σ → List β → Prop} {Holds' : τ → List β → Prop} {ok : ε → Prop} {ok' : ε' → Prop}
    {put : ε → List β} {put' : ε' → List β} {feed : ο → List ε'}
    (hboth : (M.cascade N feed).Conveys (HoldsBoth Holds Holds')
      (Sum.elim ok fun e => ok' e ∧ put' e = []) (Sum.elim put fun _ => []) fun a => [a])
    (hdrains : M.Drains Holds ok put)
    (hfeed : ∀ o, ∀ e ∈ feed o, ∀ t, (N.step t e).2 = [])
    (hnext : ∀ t a items, Holds' t (a :: items) →
      ∃ e, (ok' e ∧ put' e = []) ∧ (N.step t e).2 = [a])
    {s : σ × τ} {a : β} {items : List β} (hs : HoldsBoth Holds Holds' s (a :: items)) :
    ∃ es, (∀ e ∈ es, Sum.elim ok (fun e => ok' e ∧ put' e = []) e ∧
        Sum.elim put (fun _ => []) e = []) ∧
      ((M.cascade N feed).run s es).2 = [a] := by
  obtain ⟨s, t⟩ := s
  obtain ⟨first, second, hfirst, -, -⟩ := id hs
  obtain ⟨es, hes, hempty⟩ := hdrains s first hfirst
  have hinl : ∀ e ∈ es.map Sum.inl, Sum.elim ok (fun e => ok' e ∧ put' e = []) e ∧
      Sum.elim put (fun _ => []) e = [] := by
    intro e he
    obtain ⟨e₁, he₁, rfl⟩ := List.mem_map.1 he
    exact hes e₁ he₁
  have hsilent : ((M.cascade N feed).run (s, t) (es.map .inl)).2 = [] := by
    rw [cascade_run_inl]
    refine N.run_silent fun e he => ?_
    obtain ⟨o, -, he⟩ := List.mem_flatMap.1 he
    exact hfeed o e he
  have hput : (es.map Sum.inl).flatMap (Sum.elim put fun _ : ε' => []) = [] :=
    List.flatMap_eq_nil_iff.2 fun e he => (hinl e he).2
  have hmoved := hboth.silent_run hs (fun e he => (hinl e he).1) hsilent
  rw [hput, List.append_nil] at hmoved
  obtain ⟨first', second', hfirst', hsecond', hitems⟩ := hmoved
  have hdrained : first' = [] := hempty first' (by rwa [cascade_run_inl] at hfirst')
  rw [hdrained, List.append_nil] at hitems
  obtain ⟨e, he, hout⟩ := hnext _ a items (hitems ▸ hsecond')
  refine ⟨es.map .inl ++ [.inr e], ?_, ?_⟩
  · refine List.forall_mem_append.2 ⟨hinl, List.forall_mem_singleton.2 ⟨he, rfl⟩⟩
  · rw [run_append, hsilent, List.nil_append, run_cons, run_nil, List.append_nil]
    exact hout

/-! ### Queues -/

inductive QueueEvent (α : Type x) where
  | enqueue (a : α)
  | dequeue

def queue : Machine (List α) (QueueEvent α) α where
  step
    | q, .enqueue a => (q ++ [a], [])
    | [], .dequeue => ([], [])
    | a :: q, .dequeue => (q, [a])

variable {β : Type z} (P : α → Prop) (f : α → β)

def QueueHolds (q : List α) (items : List β) : Prop := items = q.map f ∧ ∀ a ∈ q, P a

def QueueAllowed : QueueEvent α → Prop
  | .enqueue a => P a
  | .dequeue => True

def enqueued : QueueEvent α → List β
  | .enqueue a => [f a]
  | .dequeue => []

theorem queue_conveys :
    queue.Conveys (QueueHolds P f) (QueueAllowed P) (enqueued f) fun a => [f a] := by
  rintro q items e ⟨rfl, hq⟩ hok
  cases e with
  | enqueue a =>
    have hall : ∀ b ∈ q ++ [a], P b := by
      rw [List.forall_mem_append, List.forall_mem_singleton]
      exact ⟨hq, hok⟩
    exact ⟨_, ⟨rfl, hall⟩, List.map_append⟩
  | dequeue =>
    cases q with
    | nil => exact ⟨[], ⟨rfl, nofun⟩, rfl⟩
    | cons a q =>
      rw [List.forall_mem_cons] at hq
      exact ⟨_, ⟨rfl, hq.2⟩, (List.append_nil _).symm⟩

theorem queue_drains : queue.Drains (QueueHolds P f) (QueueAllowed P) (enqueued f) := by
  rintro q items -
  refine ⟨List.replicate q.length .dequeue, fun e he => ?_, ?_⟩
  · rw [List.eq_of_mem_replicate he]
    exact ⟨trivial, rfl⟩
  · have hempty : (queue.run q (List.replicate q.length .dequeue)).1 = [] := by
      induction q with
      | nil => rfl
      | cons a q ih => exact ih
    rintro rest ⟨hrest, -⟩
    rw [hrest, hempty, List.map_nil]

/-- What a queue lets out was put into it. -/
theorem queue_forall_out {q : List α} {items : List β} (hq : QueueHolds P f q items)
    (e : QueueEvent α) : ∀ a ∈ (queue.step q e).2, P a := by
  cases e with
  | enqueue a => exact nofun
  | dequeue =>
    cases q with
    | nil => exact nofun
    | cons a q =>
      have ha : P a := hq.2 a List.mem_cons_self
      exact List.forall_mem_singleton.2 ha

end Machine

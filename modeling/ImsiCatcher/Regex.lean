import ImsiCatcher.Text

/-!
# Backtracking regular expressions

`run` lists the matches of an expression at the start of a text in the order in which a
backtracking engine tries them: alternatives from the left, repetition greedy, a round
that consumes nothing never repeated. `search` takes the first match at the leftmost
place that has one. `First` names the preferred match, and its rules compute it along
the expression.
-/

inductive Regex where
  | lit (t : Text)
  | chars (p : Char → Bool)
  | seq (a b : Regex)
  | star (a : Regex)
  | group (n : ℕ) (a : Regex)

namespace Regex

/-- A match: the text it takes, its groups with the latest first, and what is left. -/
structure Found where
  text : Text
  groups : List (ℕ × Text)
  rest : Text

/-- `match.group(n)`. -/
def Found.groupText (m : Found) (n : ℕ) : Option Text := m.groups.lookup n

def Found.append (m m' : Found) : Found := ⟨m.text ++ m'.text, m'.groups ++ m.groups, m'.rest⟩

def iterate (f : Text → List Found) : ℕ → Text → List Found
  | 0, s => [⟨[], [], s⟩]
  | k + 1, s =>
    ((f s).filter fun m => m.rest.length < s.length).flatMap
      (fun m => (iterate f k m.rest).map m.append) ++ [⟨[], [], s⟩]

def run : Regex → Text → List Found
  | lit t, s => if t.isPrefixOf s then [⟨t, [], s.drop t.length⟩] else []
  | chars _, [] => []
  | chars p, c :: s => if p c then [⟨[c], [], s⟩] else []
  | seq a b, s => (a.run s).flatMap fun m => (b.run m.rest).map m.append
  | star a, s => iterate a.run s.length s
  | group n a, s => (a.run s).map fun m => ⟨m.text, (n, m.text) :: m.groups, m.rest⟩

def plus (a : Regex) : Regex := seq a (star a)

/-- `re.search`. -/
def search (r : Regex) : Text → Option Found
  | [] => (r.run []).head?
  | c :: s => (r.run (c :: s)).head?.or (search r s)

/-- The match that the engine prefers at the start of `s`. -/
def First (r : Regex) (s : Text) (m : Found) : Prop := (r.run s).head? = some m

/-! ### Repetition and its fuel -/

theorem iterate_congr (f : Text → List Found) (k k' : ℕ) (s : Text)
    (hk : s.length ≤ k) (hk' : s.length ≤ k') : iterate f k s = iterate f k' s := by
  induction k generalizing k' s with
  | zero =>
    have hs : s = [] := List.eq_nil_of_length_eq_zero (by omega)
    subst hs
    cases k' <;> simp [iterate]
  | succ k ih =>
    cases k' with
    | zero =>
      have hs : s = [] := List.eq_nil_of_length_eq_zero (by omega)
      subst hs
      simp [iterate]
    | succ k' =>
      simp only [iterate]
      congr 1
      apply List.flatMap_congr
      intro m hm
      have hlt : m.rest.length < s.length := by simpa using (List.mem_filter.1 hm).2
      rw [ih k' m.rest (by omega) (by omega)]

theorem head?_flatMap_cons {α β : Type*} {l : List α} {f : α → List β} {a : α} {b : β}
    (hl : l.head? = some a) (hf : (f a).head? = some b) : (l.flatMap f).head? = some b := by
  cases l with
  | nil => simp at hl
  | cons x l =>
    obtain rfl : x = a := by simpa using hl
    rw [List.flatMap_cons, List.head?_append, hf]
    rfl

/-! ### The preferred match, along the expression -/

theorem first_lit (t s : Text) : First (lit t) (t ++ s) ⟨t, [], s⟩ := by
  have h : t.isPrefixOf (t ++ s) = true := List.isPrefixOf_iff_prefix.2 (List.prefix_append t s)
  simp [First, run, h]

theorem first_chars {p : Char → Bool} {c : Char} (hc : p c = true) (s : Text) :
    First (chars p) (c :: s) ⟨[c], [], s⟩ := by simp [First, run, hc]

theorem First.seq {a b : Regex} {s : Text} {m m' : Found} (ha : First a s m)
    (hb : First b m.rest m') : First (seq a b) s (m.append m') := by
  refine head?_flatMap_cons ha ?_
  rw [List.head?_map, hb]
  rfl

theorem First.group {a : Regex} {s : Text} {m : Found} (n : ℕ) (ha : First a s m) :
    First (group n a) s ⟨m.text, (n, m.text) :: m.groups, m.rest⟩ := by
  unfold First
  rw [run, List.head?_map, ha]
  rfl

/-- One more round of a repetition. -/
theorem First.star_round {a : Regex} {s : Text} {m m' : Found} (ha : First a s m)
    (hlt : m.rest.length < s.length) (hrest : First (star a) m.rest m') :
    First (star a) s (m.append m') := by
  obtain ⟨k, hk⟩ : ∃ k, s.length = k + 1 := ⟨s.length - 1, by omega⟩
  unfold First at hrest ⊢
  rw [run] at hrest
  rw [run, hk, iterate, List.head?_append]
  have hround : (((a.run s).filter fun m => m.rest.length < s.length).flatMap
      (fun m => (iterate a.run k m.rest).map m.append)).head? = some (m.append m') := by
    apply head?_flatMap_cons (a := m)
    · cases hr : a.run s with
      | nil => simp [First, hr] at ha
      | cons x xs =>
        obtain rfl : x = m := by simpa [First, hr] using ha
        simp [hlt]
    · rw [List.head?_map, iterate_congr a.run k m.rest.length m.rest (by omega) le_rfl, hrest]
      rfl
  rw [hround]
  rfl

theorem first_star_stop {a : Regex} {s : Text} (ha : a.run s = []) :
    First (star a) s ⟨[], [], s⟩ := by
  unfold First
  rw [run]
  cases s.length <;> simp [iterate, ha]

theorem run_chars_eq_nil {p : Char → Bool} {s : Text} (hs : ∀ c ∈ s.head?, p c = false) :
    (chars p).run s = [] := by
  cases s with
  | nil => rfl
  | cons c s => simp [run, hs c rfl]

theorem first_star_chars {p : Char → Bool} {v s : Text} (hv : ∀ c ∈ v, p c = true)
    (hs : ∀ c ∈ s.head?, p c = false) : First (star (chars p)) (v ++ s) ⟨v, [], s⟩ := by
  induction v with
  | nil => exact first_star_stop (run_chars_eq_nil hs)
  | cons c v ih =>
    have hc : First (chars p) (c :: (v ++ s)) ⟨[c], [], v ++ s⟩ := first_chars (hv c (by simp)) _
    exact hc.star_round (by simp) (ih fun d hd => hv d (by simp [hd]))

theorem first_plus_chars {p : Char → Bool} {v s : Text} (hne : v ≠ [])
    (hv : ∀ c ∈ v, p c = true) (hs : ∀ c ∈ s.head?, p c = false) :
    First (plus (chars p)) (v ++ s) ⟨v, [], s⟩ := by
  cases v with
  | nil => exact absurd rfl hne
  | cons c v =>
    have hc : First (chars p) (c :: (v ++ s)) ⟨[c], [], v ++ s⟩ := first_chars (hv c (by simp)) _
    exact hc.seq (first_star_chars (fun d hd => hv d (by simp [hd])) hs)

/-! ### Searching -/

theorem First.search {r : Regex} {s : Text} {m : Found} (h : First r s m) :
    search r s = some m := by
  unfold First at h
  cases s with
  | nil => rw [Regex.search, h]
  | cons c s => rw [Regex.search, h]; rfl

theorem search_skip {p : Char → Bool} (b : Regex) {v : Text} (hv : ∀ c ∈ v, p c = false)
    (s : Text) : search (seq (chars p) b) (v ++ s) = search (seq (chars p) b) s := by
  induction v with
  | nil => rfl
  | cons c v ih =>
    have hc : (seq (chars p) b).run (c :: (v ++ s)) = [] := by simp [run, hv c (by simp)]
    rw [List.cons_append, search, hc, ih fun d hd => hv d (by simp [hd])]
    rfl

/-- Where its first literal character does not occur, an expression is not found. -/
theorem search_eq_none_of_notMem {c : Char} {t : Text} (b : Regex) {s : Text} (hs : c ∉ s) :
    search (seq (lit (c :: t)) b) s = none := by
  induction s with
  | nil => rfl
  | cons d s ih =>
    simp only [List.mem_cons, not_or] at hs
    have hd : (c :: t).isPrefixOf (d :: s) = false := by simp [List.isPrefixOf, hs.1]
    have hrun : (seq (lit (c :: t)) b).run (d :: s) = [] := by simp [run, hd]
    rw [search, hrun, ih hs.2]
    rfl

/-- What is found is a match at some place of the text. -/
theorem exists_of_search {r : Regex} {s : Text} {m : Found} (h : search r s = some m) :
    ∃ s', s' <:+ s ∧ m ∈ r.run s' := by
  induction s with
  | nil => exact ⟨[], List.suffix_rfl, List.mem_of_mem_head? h⟩
  | cons c s ih =>
    rw [search, Option.or_eq_some_iff] at h
    rcases h with h | ⟨_, h⟩
    · exact ⟨c :: s, List.suffix_rfl, List.mem_of_mem_head? h⟩
    · obtain ⟨s', hs', hm⟩ := ih h
      exact ⟨s', hs'.trans (List.suffix_cons c s), hm⟩

theorem isSome_search_lit (t s : Text) : (search (lit t) s).isSome = Text.contains t s := by
  induction s with
  | nil => cases t <;> rfl
  | cons c s ih =>
    rw [search, Text.contains, Option.isSome_or, ih]
    congr 1
    cases h : t.isPrefixOf (c :: s) <;> simp [run, h]

/-! ### What a match takes -/

theorem mem_run_seq {a b : Regex} {s : Text} {m : Found} :
    m ∈ (seq a b).run s ↔ ∃ x ∈ a.run s, ∃ y ∈ b.run x.rest, x.append y = m := by
  simp only [run, List.mem_flatMap, List.mem_map]

theorem mem_run_chars {p : Char → Bool} {s : Text} {m : Found} (h : m ∈ (chars p).run s) :
    ∃ c rest, s = c :: rest ∧ p c = true ∧ m = ⟨[c], [], rest⟩ := by
  cases s with
  | nil => exact absurd h List.not_mem_nil
  | cons c s =>
    rw [run] at h
    by_cases hc : p c = true
    · rw [if_pos hc, List.mem_singleton] at h
      exact ⟨c, s, rfl, hc, h⟩
    · rw [if_neg hc] at h
      exact absurd h List.not_mem_nil

theorem mem_iterate_chars {p : Char → Bool} {k : ℕ} {s : Text} {m : Found}
    (h : m ∈ iterate (chars p).run k s) : ∀ c ∈ m.text, p c = true := by
  induction k generalizing s m with
  | zero =>
    rw [iterate, List.mem_singleton] at h
    rw [h]
    exact fun c hc => absurd hc List.not_mem_nil
  | succ k ih =>
    rw [iterate, List.mem_append, List.mem_flatMap, List.mem_singleton] at h
    rcases h with ⟨x, hx, hm⟩ | h
    · obtain ⟨y, hy, rfl⟩ := List.mem_map.1 hm
      obtain ⟨d, rest, -, hd, rfl⟩ := mem_run_chars (List.mem_of_mem_filter hx)
      intro c hc
      rw [Found.append] at hc
      rcases List.mem_cons.1 hc with rfl | hc
      · exact hd
      · exact ih hy c hc
    · rw [h]
      exact fun c hc => absurd hc List.not_mem_nil

theorem iterate_append_rest {f : Text → List Found}
    (hf : ∀ s, ∀ m ∈ f s, m.text ++ m.rest = s) {k : ℕ} {s : Text} {m : Found}
    (h : m ∈ iterate f k s) : m.text ++ m.rest = s := by
  induction k generalizing s m with
  | zero =>
    rw [iterate, List.mem_singleton] at h
    rw [h, List.nil_append]
  | succ k ih =>
    rw [iterate, List.mem_append, List.mem_flatMap, List.mem_singleton] at h
    rcases h with ⟨x, hx, hm⟩ | h
    · obtain ⟨y, hy, rfl⟩ := List.mem_map.1 hm
      rw [Found.append, List.append_assoc, ih hy]
      exact hf s x (List.mem_of_mem_filter hx)
    · rw [h, List.nil_append]

/-- A match and what is left make up the text. -/
theorem append_rest_of_mem_run {r : Regex} {s : Text} {m : Found} (h : m ∈ r.run s) :
    m.text ++ m.rest = s := by
  induction r generalizing s m with
  | lit t =>
    rw [run] at h
    by_cases ht : t.isPrefixOf s = true
    · rw [if_pos ht, List.mem_singleton] at h
      obtain ⟨u, rfl⟩ := List.isPrefixOf_iff_prefix.1 ht
      rw [h, List.drop_left]
    · rw [if_neg ht] at h
      exact absurd h List.not_mem_nil
  | chars p =>
    obtain ⟨c, rest, rfl, -, rfl⟩ := mem_run_chars h
    rfl
  | seq a b iha ihb =>
    obtain ⟨x, hx, y, hy, rfl⟩ := mem_run_seq.1 h
    rw [Found.append, List.append_assoc, ihb hy, iha hx]
  | star a ih => exact iterate_append_rest (fun _ _ hm => ih hm) h
  | group n a ih =>
    rw [run] at h
    obtain ⟨x, hx, rfl⟩ := List.mem_map.1 h
    have hrest := ih hx
    exact hrest

/-- A repetition of characters takes at least one, and only such. -/
theorem mem_run_plus_chars {p : Char → Bool} {s : Text} {m : Found}
    (h : m ∈ (plus (chars p)).run s) : m.text ≠ [] ∧ ∀ c ∈ m.text, p c = true := by
  obtain ⟨x, hx, y, hy, rfl⟩ := mem_run_seq.1 h
  obtain ⟨d, rest, -, hd, rfl⟩ := mem_run_chars hx
  rw [Found.append]
  refine ⟨by simp, ?_⟩
  intro c hc
  rcases List.mem_cons.1 hc with rfl | hc
  · exact hd
  · exact mem_iterate_chars hy c hc

end Regex

import Mathlib.Data.List.Count
import Mathlib.Data.List.Sort

/-!
# Order statistics

The element of a sorted list at an index is bounded by the numbers of elements that lie
below a value. A value that more than half of the elements have is therefore in the middle,
wherever the other elements lie. A loop that keeps the first largest element, among those
that meet a condition and lie above a bound, finds one unless there is none. A selection that
takes a largest element again and again sorts, from the largest element down.
-/

universe u v

namespace OrderStatistics
variable {α : Type u}

theorem countP_take_add_drop (p : α → Bool) (l : List α) (i : ℕ) :
    (l.take i).countP p + (l.drop i).countP p = l.countP p := by
  rw [← List.countP_append, List.take_append_drop]

section Sorted
variable [LinearOrder α] {l : List α} {a : α}

/-- No more elements lie below `a` than stand in front of the index. -/
theorem le_getElem (hl : l.SortedLE) {i : ℕ} (hi : i < l.length) (h : l.countP (· < a) ≤ i) :
    a ≤ l[i] := by
  by_contra hlt
  have hfront : (l.take (i + 1)).countP (· < a) = i + 1 := by
    rw [List.countP_eq_length.2, List.length_take, Nat.min_eq_left hi]
    intro b hb
    obtain ⟨j, hj, rfl⟩ := List.mem_take_iff_getElem.1 hb
    have hle : l[j] ≤ l[i] := hl.getElem_le_getElem_of_le (by omega)
    exact decide_eq_true (hle.trans_lt (not_le.1 hlt))
  have hsplit := countP_take_add_drop (· < a) l (i + 1)
  omega

theorem getElem_le (hl : l.SortedLE) {i : ℕ} (hi : i < l.length) (h : i < l.countP (· ≤ a)) :
    l[i] ≤ a := by
  by_contra hlt
  have hback : (l.drop i).countP (· ≤ a) = 0 := by
    rw [List.countP_eq_zero]
    intro b hb
    obtain ⟨j, hj, rfl⟩ := List.mem_drop_iff_getElem.1 hb
    have hle : l[i] ≤ l[i + j] := hl.getElem_le_getElem_of_le (by omega)
    simpa using (not_le.1 hlt).trans_le hle
  have hsplit := countP_take_add_drop (· ≤ a) l i
  have hfront := List.countP_le_length (p := (· ≤ a)) (l := l.take i)
  rw [List.length_take] at hfront
  omega

theorem countP_le_eq (l : List α) (a : α) :
    l.countP (· ≤ a) = l.countP (· < a) + l.count a := by
  induction l with
  | nil => rfl
  | cons b l ih =>
    rw [List.countP_cons, List.countP_cons, List.count_cons, ih]
    rcases lt_trichotomy b a with hlt | rfl | hgt
    · simp only [hlt.le, hlt, hlt.ne, decide_true, if_true, beq_iff_eq, if_false]
      omega
    · simp only [le_refl, lt_irrefl, decide_true, decide_false, if_true, beq_self_eq_true,
        Bool.false_eq_true, if_false]
      omega
    · simp only [not_le.2 hgt, not_lt.2 hgt.le, hgt.ne', decide_false, Bool.false_eq_true,
        if_false, beq_iff_eq]
      omega

/-- The upper median is the value that more than half of the elements have. -/
theorem getElem_half_of_majority (hl : l.SortedLE) (hi : l.length / 2 < l.length)
    (h : l.length < 2 * l.count a) : l[l.length / 2] = a := by
  have hbelow := countP_le_eq l a
  have hall := List.countP_le_length (p := (· ≤ a)) (l := l)
  exact le_antisymm (getElem_le hl hi (by omega)) (le_getElem hl hi (by omega))

end Sorted

section Largest
variable {β : Type v} [LinearOrder β] (p : α → Prop) [DecidablePred p] (f : α → β)

/-- The loop over the elements, with the value and the element that it keeps. -/
def keepLargest (l : List α) (best : β × Option α) : β × Option α :=
  l.foldl (fun best a => if p a ∧ best.1 < f a then (f a, some a) else best) best

theorem keepLargest_cases (l : List α) (best : β × Option α) :
    (keepLargest p f l best = best ∧ ∀ a ∈ l, p a → f a ≤ best.1) ∨
    ∃ a ∈ l, p a ∧ best.1 < f a ∧ keepLargest p f l best = (f a, some a) ∧
      ∀ b ∈ l, p b → f b ≤ f a := by
  induction l generalizing best with
  | nil => exact Or.inl ⟨rfl, fun _ ha => absurd ha List.not_mem_nil⟩
  | cons a l ih =>
    rw [keepLargest, List.foldl_cons]
    by_cases ha : p a ∧ best.1 < f a
    · rw [if_pos ha]
      rcases ih (f a, some a) with ⟨hkept, hall⟩ | ⟨b, hb, hpb, hlt, hkept, hall⟩
      · refine Or.inr ⟨a, List.mem_cons_self, ha.1, ha.2, hkept, ?_⟩
        exact List.forall_mem_cons.2 ⟨fun _ => le_rfl, hall⟩
      · refine Or.inr ⟨b, List.mem_cons_of_mem _ hb, hpb, ha.2.trans hlt, hkept, ?_⟩
        exact List.forall_mem_cons.2 ⟨fun _ => hlt.le, hall⟩
    · rw [if_neg ha]
      have hfirst : p a → f a ≤ best.1 := fun hpa => not_lt.1 fun hlt => ha ⟨hpa, hlt⟩
      rcases ih best with ⟨hkept, hall⟩ | ⟨b, hb, hpb, hlt, hkept, hall⟩
      · exact Or.inl ⟨hkept, List.forall_mem_cons.2 ⟨hfirst, hall⟩⟩
      · refine Or.inr ⟨b, List.mem_cons_of_mem _ hb, hpb, hlt, hkept, ?_⟩
        exact List.forall_mem_cons.2 ⟨fun hpa => (hfirst hpa).trans hlt.le, hall⟩

end Largest

section Selection
variable {β : Type v} [LinearOrder β] {f : α → β} {l front : List α} {a : α}

/-- What a selection from `l` has taken so far, the largest elements first. -/
structure Selects (f : α → β) (l front : List α) : Prop where
  rest : ∃ rest, (front ++ rest).Perm l ∧ ∀ a ∈ front, ∀ b ∈ rest, f b ≤ f a
  sorted : front.Pairwise fun a b => f b ≤ f a

theorem Selects.nil (f : α → β) (l : List α) : Selects f l [] :=
  ⟨⟨l, List.Perm.refl l, List.forall_mem_nil _⟩, List.Pairwise.nil⟩

theorem Selects.mem (h : Selects f l front) (ha : a ∈ front) : a ∈ l := by
  obtain ⟨rest, hperm, -⟩ := h.rest
  exact hperm.subset (List.mem_append_left _ ha)

/-- A largest element of those that are left is taken. -/
theorem Selects.take (h : Selects f l front) (hnodup : l.Nodup) (ha : a ∈ l) (hnew : a ∉ front)
    (hlargest : ∀ b ∈ l, b ∉ front → f b ≤ f a) : Selects f l (front ++ [a]) := by
  obtain ⟨rest, hperm, hbelow⟩ := h.rest
  have hrest : a ∈ rest := (List.mem_append.1 (hperm.mem_iff.2 ha)).resolve_left hnew
  obtain ⟨before, after, rfl⟩ := List.append_of_mem hrest
  have hsplit : (front ++ [a] ++ (before ++ after)).Perm (front ++ (before ++ a :: after)) := by
    rw [List.append_assoc]
    change (front ++ a :: (before ++ after)).Perm _
    exact List.perm_middle.symm.append_left front
  have hdisjoint : front.Disjoint (before ++ a :: after) :=
    List.disjoint_of_nodup_append (hperm.nodup_iff.2 hnodup)
  have hleft : ∀ b ∈ before ++ after, b ∈ before ++ a :: after := by
    intro b hb
    rw [List.mem_append] at hb ⊢
    exact hb.imp_right (List.mem_cons_of_mem a)
  refine ⟨⟨before ++ after, hsplit.trans hperm, ?_⟩, ?_⟩
  · rw [List.forall_mem_append, List.forall_mem_singleton]
    refine ⟨fun c hc b hb => hbelow c hc b (hleft b hb), fun b hb => ?_⟩
    have hmem : b ∈ l := hperm.subset (List.mem_append_right _ (hleft b hb))
    exact hlargest b hmem fun hfront => hdisjoint hfront (hleft b hb)
  · rw [List.pairwise_append]
    refine ⟨h.sorted, List.pairwise_singleton _ _, ?_⟩
    intro c hc b hb
    rw [List.mem_singleton] at hb
    exact hb ▸ hbelow c hc a hrest

end Selection

end OrderStatistics

import Mathlib.Data.List.Forall2
import Mathlib.Data.List.Perm.Basic
import Mathlib.Data.Multiset.MapFold

/-!
# Lists of keyed records in another order

A list is a rearrangement of another one when its elements are those of the other in some
order, each up to a relation. What a program reads off a list by a search for a condition,
by a filter or by a key that no two records share is the same for a rearrangement.
-/

universe u v w

/-- The elements of `bs` are those of `as` in some order, each up to `R`. -/
def Rearranged {α : Type u} {β : Type v} (R : α → β → Prop) (as : List α) (bs : List β) : Prop :=
  ∃ cs, as.Perm cs ∧ List.Forall₂ R cs bs

namespace Rearranged
variable {α : Type u} {β : Type v} {γ : Type w} {R : α → β → Prop} {as : List α} {bs : List β}

theorem rel (h : Rearranged R as bs) : Multiset.Rel R (as : Multiset α) (bs : Multiset β) := by
  obtain ⟨cs, hperm, hrel⟩ := h
  rw [Multiset.coe_eq_coe.2 hperm]
  clear hperm
  induction hrel with
  | nil => exact Multiset.Rel.zero
  | cons hab _ ih => exact Multiset.Rel.cons hab ih

theorem exists_iff (h : Rearranged R as bs) {P : α → Prop} {Q : β → Prop}
    (hPQ : ∀ a b, R a b → (P a ↔ Q b)) : (∃ a ∈ as, P a) ↔ ∃ b ∈ bs, Q b := by
  constructor
  · rintro ⟨a, ha, hP⟩
    obtain ⟨b, hb, hab⟩ := Multiset.exists_mem_of_rel_of_mem h.rel (Multiset.mem_coe.2 ha)
    exact ⟨b, Multiset.mem_coe.1 hb, (hPQ a b hab).1 hP⟩
  · rintro ⟨b, hb, hQ⟩
    obtain ⟨a, ha, hab⟩ := Multiset.exists_mem_of_rel_of_mem (Multiset.rel_flip.2 h.rel)
      (Multiset.mem_coe.2 hb)
    exact ⟨a, Multiset.mem_coe.1 ha, (hPQ a b hab).2 hQ⟩

theorem forall_iff (h : Rearranged R as bs) {P : α → Prop} {Q : β → Prop}
    (hPQ : ∀ a b, R a b → (P a ↔ Q b)) : (∀ a ∈ as, P a) ↔ ∀ b ∈ bs, Q b := by
  have hnot := h.exists_iff fun a b hab => not_congr (hPQ a b hab)
  simpa using not_congr hnot

theorem perm_map (h : Rearranged R as bs) {f : α → γ} {g : β → γ}
    (hfg : ∀ a b, R a b → f a = g b) : (as.map f).Perm (bs.map g) := by
  rw [← Multiset.coe_eq_coe, ← Multiset.map_coe, ← Multiset.map_coe]
  exact Multiset.rel_eq.1 (Multiset.rel_map.2 (h.rel.mono fun a _ b _ => hfg a b))

theorem filter (h : Rearranged R as bs) {p : α → Bool} {q : β → Bool}
    (hpq : ∀ a b, R a b → p a = q b) : Rearranged R (as.filter p) (bs.filter q) := by
  obtain ⟨cs, hperm, hrel⟩ := h
  refine ⟨cs.filter p, hperm.filter p, List.rel_filter ?_ hrel⟩
  intro a b hab
  exact Bool.coe_iff_coe.2 (hpq a b hab)

theorem length_eq (h : Rearranged R as bs) : as.length = bs.length := by
  obtain ⟨cs, hperm, hrel⟩ := h
  rw [hperm.length_eq, hrel.length_eq]

theorem eq_nil_iff (h : Rearranged R as bs) : as = [] ↔ bs = [] := by
  rw [← List.length_eq_zero_iff, h.length_eq, List.length_eq_zero_iff]

end Rearranged

namespace Keyed
variable {α : Type u} {κ : Type v} {γ : Type w} [DecidableEq κ] {key : α → κ}

theorem find?_eq_some {as : List α} (hnodup : (as.map key).Nodup) {k : κ} {a : α} :
    as.find? (fun a => key a = k) = some a ↔ a ∈ as ∧ key a = k := by
  constructor
  · intro h
    exact ⟨List.mem_of_find?_eq_some h, by simpa using List.find?_some h⟩
  · rintro ⟨ha, rfl⟩
    obtain ⟨b, hb⟩ : ∃ b, as.find? (fun b => key b = key a) = some b := by
      rw [← Option.isSome_iff_exists, List.find?_isSome]
      exact ⟨a, ha, decide_eq_true rfl⟩
    have hkey : key b = key a := by simpa using List.find?_some hb
    rw [hb, List.inj_on_of_nodup_map hnodup (List.mem_of_find?_eq_some hb) ha hkey]

theorem find?_eq_none {as : List α} {k : κ} :
    as.find? (fun a => key a = k) = none ↔ k ∉ as.map key := by
  rw [List.find?_eq_none, List.mem_map, not_exists]
  exact forall_congr' fun a => by rw [decide_eq_true_eq, not_and]

/-- A loop that keeps what the latest record of a key shows finds the only record of it. -/
theorem foldl_eq {as : List α} (hnodup : (as.map key).Nodup) (k : κ) (f : α → γ) (d : γ) :
    as.foldl (fun last a => if key a = k then f a else last) d =
      ((as.find? fun a => key a = k).map f).getD d := by
  induction as generalizing d with
  | nil => rfl
  | cons a as ih =>
    rw [List.map_cons, List.nodup_cons] at hnodup
    rw [List.foldl_cons, ih hnodup.2]
    by_cases hk : key a = k
    · have hnone : as.find? (fun a => key a = k) = none := find?_eq_none.2 (hk ▸ hnodup.1)
      rw [hnone, if_pos hk, List.find?_cons, decide_eq_true hk]
      rfl
    · rw [if_neg hk, List.find?_cons, decide_eq_false hk]

variable {β : Type u} {key' : β → κ} {R : α → β → Prop} {as : List α} {bs : List β}

omit [DecidableEq κ] in
theorem nodup_rearranged (h : Rearranged R as bs) (hkey : ∀ a b, R a b → key a = key' b)
    (hnodup : (as.map key).Nodup) : (bs.map key').Nodup := (h.perm_map hkey).nodup_iff.1 hnodup

/-- A key is found in both lists, in related records, or in none of them. -/
theorem find?_rearranged (h : Rearranged R as bs) (hkey : ∀ a b, R a b → key a = key' b)
    (hnodup : (as.map key).Nodup) (k : κ) :
    (as.find? (fun a => key a = k) = none ∧ bs.find? (fun b => key' b = k) = none) ∨
    ∃ a b, as.find? (fun a => key a = k) = some a ∧ bs.find? (fun b => key' b = k) = some b ∧
      R a b := by
  cases hfind : as.find? (fun a => key a = k) with
  | none =>
    refine Or.inl ⟨rfl, ?_⟩
    rw [find?_eq_none] at hfind ⊢
    exact fun hmem => hfind ((h.perm_map hkey).mem_iff.2 hmem)
  | some a =>
    obtain ⟨ha, hak⟩ := (find?_eq_some hnodup).1 hfind
    obtain ⟨b, hb, hab⟩ := Multiset.exists_mem_of_rel_of_mem h.rel (Multiset.mem_coe.2 ha)
    refine Or.inr ⟨a, b, rfl, ?_, hab⟩
    exact (find?_eq_some (nodup_rearranged h hkey hnodup)).2
      ⟨Multiset.mem_coe.1 hb, (hkey a b hab).symm.trans hak⟩

end Keyed

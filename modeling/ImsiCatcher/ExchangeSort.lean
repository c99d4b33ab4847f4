import Mathlib.Data.List.Nodup
import Mathlib.Data.List.Perm.Basic
import Mathlib.Logic.Equiv.Basic
import Mathlib.Order.Lattice

/-!
# Sorting indices by exchanges

The items stay where they are, and an array of their indices is put in order. Each place in turn
is compared with all places behind it, and an index with a smaller key is exchanged into it. The
order of equal keys may change, but no index is lost, and the ones behind the items stay as they
are.
-/

universe u v

namespace ExchangeSort
variable {β : Type u} [LinearOrder β] (key : ℕ → β)

/-- The places `i` and `j` are exchanged where the index at `j` has the smaller key. -/
def exchange (i : ℕ) (seq : ℕ → ℕ) (j : ℕ) : ℕ → ℕ :=
  if key (seq j) < key (seq i) then fun k => if k = i then seq j else if k = j then seq i else seq k
  else seq

def pass (n : ℕ) (seq : ℕ → ℕ) (i : ℕ) : ℕ → ℕ :=
  (List.range' (i + 1) (n - (i + 1))).foldl (exchange key i) seq

def sort (n : ℕ) : ℕ → ℕ := (List.range n).foldl (pass key n) id

/-- The first `n` indices in some order, with the smallest keys in order in front of `i`. -/
structure SortedUpTo (n i : ℕ) (seq : ℕ → ℕ) : Prop where
  perm : ((List.range n).map seq).Perm (List.range n)
  behind : ∀ k, n ≤ k → seq k = k
  le : ∀ a b, a < i → a < b → b < n → key (seq a) ≤ key (seq b)

variable {key} {n i j : ℕ} {seq : ℕ → ℕ}

theorem exchange_eq_swap (i j : ℕ) (seq : ℕ → ℕ) :
    (fun k => if k = i then seq j else if k = j then seq i else seq k) = seq ∘ Equiv.swap i j := by
  funext k
  rw [Function.comp_apply, Equiv.swap_apply_def]
  split
  · rfl
  · split
    · rfl
    · rfl

theorem range_swap_perm (hi : i < n) (hj : j < n) :
    ((List.range n).map (Equiv.swap i j)).Perm (List.range n) := by
  have hnodup : ((List.range n).map (Equiv.swap i j)).Nodup :=
    List.nodup_range.map (Equiv.swap i j).injective
  rw [List.perm_ext_iff_of_nodup hnodup List.nodup_range]
  intro k
  have hlt : Equiv.swap i j k < n ↔ k < n := by
    rw [Equiv.swap_apply_def]
    split
    · omega
    · split
      · omega
      · rfl
  rw [List.mem_map, List.mem_range, ← hlt]
  constructor
  · rintro ⟨a, ha, rfl⟩
    rw [Equiv.swap_apply_self]
    exact List.mem_range.1 ha
  · intro hk
    exact ⟨Equiv.swap i j k, List.mem_range.2 hk, Equiv.swap_apply_self i j k⟩

theorem SortedUpTo.lt (h : SortedUpTo key n i seq) {k : ℕ} (hk : k < n) : seq k < n := by
  have hmem : seq k ∈ (List.range n).map seq := List.mem_map_of_mem (List.mem_range.2 hk)
  exact List.mem_range.1 (h.perm.subset hmem)

/-- An exchange behind the sorted front keeps it. -/
theorem SortedUpTo.exchange (h : SortedUpTo key n i seq) (hij : i < j) (hj : j < n) :
    SortedUpTo key n i (exchange key i seq j) := by
  unfold ExchangeSort.exchange
  split
  · rw [exchange_eq_swap]
    refine ⟨?_, ?_, ?_⟩
    · rw [← List.map_map]
      exact ((range_swap_perm (by omega) hj).map seq).trans h.perm
    · intro k hk
      rw [Function.comp_apply, Equiv.swap_apply_of_ne_of_ne (by omega) (by omega)]
      exact h.behind k hk
    · intro a b ha hab hb
      have hfix : Equiv.swap i j a = a := Equiv.swap_apply_of_ne_of_ne (by omega) (by omega)
      rw [Function.comp_apply, Function.comp_apply, hfix]
      apply h.le a _ ha
      · rw [Equiv.swap_apply_def]
        split
        · omega
        · split <;> omega
      · rw [Equiv.swap_apply_def]
        split
        · omega
        · split <;> omega
  · exact h

/-- Within a pass, the place `i` has the smallest key among those it was compared with. -/
theorem exchange_le {m : ℕ} (hm : i < m) (h : ∀ k, i < k → k < m → key (seq i) ≤ key (seq k))
    {k : ℕ} (hik : i < k) (hkm : k < m + 1) :
    key (exchange key i seq m i) ≤ key (exchange key i seq m k) := by
  have hne : k ≠ i := by omega
  unfold exchange
  split
  · rename_i hlt
    simp only [if_pos, if_neg hne]
    split
    · exact hlt.le
    · exact hlt.le.trans (h k hik (by omega))
  · rename_i hge
    rcases Nat.lt_or_ge k m with hk | hk
    · exact h k hik hk
    · obtain rfl : k = m := by omega
      exact not_lt.1 hge

theorem SortedUpTo.pass (h : SortedUpTo key n i seq) (hi : i < n) :
    SortedUpTo key n (i + 1) (pass key n seq i) := by
  -- the comparisons made so far are those with the places below `m`
  have hfold : ∀ (len m : ℕ) (seq : ℕ → ℕ), SortedUpTo key n i seq → i < m → m + len = n →
      (∀ k, i < k → k < m → key (seq i) ≤ key (seq k)) →
      SortedUpTo key n (i + 1) ((List.range' m len).foldl (ExchangeSort.exchange key i) seq) := by
    intro len
    induction len with
    | zero =>
      intro m seq hseq _ hmn hmin
      refine ⟨hseq.perm, hseq.behind, ?_⟩
      intro a b ha hab hb
      rcases Nat.lt_or_ge a i with hlt | hge
      · exact hseq.le a b hlt hab hb
      · obtain rfl : a = i := by omega
        exact hmin b hab (by omega)
    | succ len ih =>
      intro m seq hseq him hmn hmin
      rw [List.range'_succ, List.foldl_cons]
      exact ih (m + 1) _ (hseq.exchange him (by omega)) (by omega) (by omega)
        fun k hik hk => exchange_le him hmin hik hk
  exact hfold (n - (i + 1)) (i + 1) seq h (by omega) (by omega) fun k hik hk => by omega

theorem sort_upTo (key : ℕ → β) (n : ℕ) {m : ℕ} (hm : m ≤ n) :
    SortedUpTo key n m ((List.range m).foldl (pass key n) id) := by
  induction m with
  | zero =>
    refine ⟨?_, fun _ _ => rfl, fun a b ha => absurd ha (Nat.not_lt_zero a)⟩
    simp
  | succ m ih =>
    rw [List.range_succ, List.foldl_append]
    exact (ih (by omega)).pass (by omega)

theorem sort_sorts (key : ℕ → β) (n : ℕ) : SortedUpTo key n n (sort key n) :=
  sort_upTo key n (Nat.le_refl n)

/-- Only the keys of the first `n` indices matter. -/
theorem sort_congr {key' : ℕ → β} (hkey : ∀ k, k < n → key k = key' k) :
    sort key n = sort key' n := by
  have hexchange : ∀ (i j : ℕ) (seq : ℕ → ℕ), SortedUpTo key n i seq → i < j → j < n →
      exchange key i seq j = exchange key' i seq j := by
    intro i j seq hseq hij hj
    unfold exchange
    rw [hkey _ (hseq.lt hj), hkey _ (hseq.lt (by omega))]
  have hpass : ∀ (i len m : ℕ) (seq : ℕ → ℕ), SortedUpTo key n i seq → i < m → m + len = n →
      (List.range' m len).foldl (exchange key i) seq =
        (List.range' m len).foldl (exchange key' i) seq := by
    intro i len
    induction len with
    | zero => intros; rfl
    | succ len ih =>
      intro m seq hseq him hmn
      rw [List.range'_succ, List.foldl_cons, List.foldl_cons,
        ← hexchange i m seq hseq him (by omega)]
      exact ih (m + 1) _ (hseq.exchange him (by omega)) (by omega) (by omega)
  have hfold : ∀ m, m ≤ n →
      (List.range m).foldl (pass key n) id = (List.range m).foldl (pass key' n) id := by
    intro m
    induction m with
    | zero => intro _; rfl
    | succ m ih =>
      intro hm
      rw [List.range_succ, List.foldl_append, List.foldl_append, ← ih (by omega)]
      exact hpass m (n - (m + 1)) (m + 1) _ (sort_upTo key n (by omega)) (by omega) (by omega)
  exact hfold n (Nat.le_refl n)

section Arrange
variable {α : Type v}

def arrange (l : List α) (seq : ℕ → ℕ) : List α :=
  (List.range l.length).filterMap fun i => l[seq i]?

theorem getElem?_filterMap {γ : Type u} {f : γ → Option α} {l : List γ}
    (h : ∀ a ∈ l, (f a).isSome) (i : ℕ) : (l.filterMap f)[i]? = l[i]?.bind f := by
  induction l generalizing i with
  | nil => rfl
  | cons a l ih =>
    obtain ⟨b, hb⟩ := Option.isSome_iff_exists.1 (h a List.mem_cons_self)
    rw [List.filterMap_cons_some hb]
    cases i with
    | zero => exact hb.symm
    | succ i => exact ih (fun a ha => h a (List.mem_cons_of_mem _ ha)) i

theorem filterMap_getElem? (l : List α) :
    (List.range l.length).filterMap (fun i => l[i]?) = l := by
  induction l with
  | nil => rfl
  | cons a l ih =>
    have hhead : (a :: l)[0]? = some a := rfl
    rw [List.length_cons, List.range_succ_eq_map, List.filterMap_cons, hhead, List.filterMap_map]
    exact congrArg (a :: ·) ih

variable {l : List α}

theorem SortedUpTo.getElem?_arrange (h : SortedUpTo key l.length i seq) {k : ℕ}
    (hk : k < l.length) : (arrange l seq)[k]? = l[seq k]? := by
  have hsome : ∀ a ∈ List.range l.length, (l[seq a]?).isSome := by
    intro a ha
    rw [List.getElem?_eq_getElem (h.lt (List.mem_range.1 ha))]
    rfl
  rw [arrange, getElem?_filterMap hsome, List.getElem?_range hk, Option.bind_some]

theorem SortedUpTo.arrange_perm (h : SortedUpTo key l.length i seq) : (arrange l seq).Perm l := by
  have hperm := h.perm.filterMap fun k => l[k]?
  rwa [List.filterMap_map, filterMap_getElem?] at hperm

theorem SortedUpTo.length_arrange (h : SortedUpTo key l.length i seq) :
    (arrange l seq).length = l.length := h.arrange_perm.length_eq

end Arrange

end ExchangeSort

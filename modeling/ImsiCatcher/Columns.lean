import Mathlib.Data.List.Infix

/-!
# Columns with pairs between them

A row is split at a pair of symbols, from the left and without overlaps, as texts are split at
a separator of two characters. Where the two symbols differ, a pair between two columns does
not run into them: the columns are split one by one, and they come back just when there is no
pair in any of them.
-/

universe u

namespace Columns
variable {α : Type u} [DecidableEq α] {x y : α}

def splitPair (x y : α) : List α → List (List α)
  | [] => [[]]
  | [c] => [[c]]
  | c :: d :: s =>
    if c = x ∧ d = y then [] :: splitPair x y s
    else (splitPair x y (d :: s)).modifyHead (c :: ·)

theorem splitPair_ne_nil (s : List α) : splitPair x y s ≠ [] := by
  induction s using splitPair.induct x y with
  | case1 => exact List.cons_ne_nil _ _
  | case2 c => exact List.cons_ne_nil _ _
  | case3 c d s hpair ih =>
    rw [splitPair, if_pos hpair]
    exact List.cons_ne_nil _ _
  | case4 c d s hpair ih =>
    rw [splitPair, if_neg hpair]
    rwa [ne_eq, List.modifyHead_eq_nil_iff]

theorem length_splitPair_pos (s : List α) : 0 < (splitPair x y s).length :=
  List.length_pos_of_ne_nil (splitPair_ne_nil s)

omit [DecidableEq α] in
theorem modifyHead_append (f : List α → List α) {l l' : List (List α)} (hne : l ≠ []) :
    (l ++ l').modifyHead f = l.modifyHead f ++ l' := by
  obtain ⟨t, l, rfl⟩ := List.exists_cons_of_ne_nil hne
  rfl

/-- A pair between two parts splits them. -/
theorem splitPair_append (hne : x ≠ y) (s t : List α) :
    splitPair x y (s ++ x :: y :: t) = splitPair x y s ++ splitPair x y t := by
  have hpair : splitPair x y (x :: y :: t) = [] :: splitPair x y t := by
    rw [splitPair, if_pos ⟨rfl, rfl⟩]
  induction s using splitPair.induct x y with
  | case1 => exact hpair
  | case2 c =>
    have hnot : ¬(c = x ∧ x = y) := fun h => hne h.2
    have hstep : splitPair x y (c :: x :: y :: t) =
        (splitPair x y (x :: y :: t)).modifyHead (c :: ·) := if_neg hnot
    rw [List.singleton_append, hstep, hpair]
    rfl
  | case3 c d s hcd ih =>
    rw [List.cons_append, List.cons_append, splitPair, if_pos hcd, splitPair, if_pos hcd, ih]
    rfl
  | case4 c d s hcd ih =>
    rw [List.cons_append, List.cons_append, splitPair, if_neg hcd, ← List.cons_append, ih,
      splitPair, if_neg hcd, modifyHead_append _ (splitPair_ne_nil _)]

/-- A text without a pair is one column. -/
theorem splitPair_of_no_pair {s : List α} (h : ¬[x, y] <:+: s) : splitPair x y s = [s] := by
  induction s using splitPair.induct x y with
  | case1 => rfl
  | case2 c => rfl
  | case3 c d s hcd ih =>
    obtain ⟨rfl, rfl⟩ := hcd
    exact absurd (List.prefix_append [c, d] s).isInfix h
  | case4 c d s hcd ih =>
    have hrest : ¬[x, y] <:+: d :: s := fun hrest => h (List.infix_cons hrest)
    rw [splitPair, if_neg hcd, ih hrest]
    rfl

theorem length_splitPair_eq_one_iff (s : List α) :
    (splitPair x y s).length = 1 ↔ ¬[x, y] <:+: s := by
  constructor
  · induction s using splitPair.induct x y with
    | case1 => simp
    | case2 c =>
      intro _ h
      have hlength := h.length_le
      simp at hlength
    | case3 c d s hcd ih =>
      intro h
      rw [splitPair, if_pos hcd, List.length_cons] at h
      have hrest : 0 < (splitPair x y s).length := length_splitPair_pos s
      omega
    | case4 c d s hcd ih =>
      intro h
      rw [splitPair, if_neg hcd, List.length_modifyHead] at h
      rw [List.infix_cons_iff, not_or]
      refine ⟨fun hfront => hcd ?_, ih h⟩
      simpa [List.cons_prefix_cons, eq_comm] using hfront
  · intro h
    rw [splitPair_of_no_pair h]
    rfl

/-- A row of columns is split column by column. -/
theorem splitPair_intercalate (hne : x ≠ y) {cols : List (List α)} (hcols : cols ≠ []) :
    splitPair x y ([x, y].intercalate cols) = cols.flatMap (splitPair x y) := by
  induction cols with
  | nil => exact absurd rfl hcols
  | cons col cols ih =>
    cases cols with
    | nil => rw [List.intercalate_singleton, List.flatMap_singleton]
    | cons col' cols =>
      rw [List.intercalate_cons_cons, List.append_assoc]
      change splitPair x y (col ++ x :: y :: [x, y].intercalate (col' :: cols)) = _
      rw [splitPair_append hne, ih (List.cons_ne_nil _ _)]
      rfl

theorem length_le_length_flatMap (cols : List (List α)) :
    cols.length ≤ (cols.flatMap (splitPair x y)).length := by
  induction cols with
  | nil => exact le_rfl
  | cons col cols ih =>
    have hcol : 0 < (splitPair x y col).length := length_splitPair_pos col
    rw [List.flatMap_cons, List.length_append, List.length_cons]
    omega

/-- There are as many fields as columns just when no column has a pair in it. -/
theorem length_flatMap_eq_iff (cols : List (List α)) :
    (cols.flatMap (splitPair x y)).length = cols.length ↔ ∀ col ∈ cols, ¬[x, y] <:+: col := by
  induction cols with
  | nil => simp
  | cons col cols ih =>
    have hcol : 0 < (splitPair x y col).length := length_splitPair_pos col
    have hcols := length_le_length_flatMap (x := x) (y := y) cols
    rw [List.forall_mem_cons, ← ih, ← length_splitPair_eq_one_iff, List.flatMap_cons,
      List.length_append, List.length_cons]
    omega

/-- Columns without a pair come back. -/
theorem flatMap_of_no_pair {cols : List (List α)} (h : ∀ col ∈ cols, ¬[x, y] <:+: col) :
    cols.flatMap (splitPair x y) = cols := by
  induction cols with
  | nil => rfl
  | cons col cols ih =>
    rw [List.forall_mem_cons] at h
    rw [List.flatMap_cons, splitPair_of_no_pair h.1, ih h.2, List.singleton_append]

omit [DecidableEq α] in
theorem notMem_intercalate {c : α} {sep : List α} {cols : List (List α)} (hsep : c ∉ sep)
    (hcols : ∀ col ∈ cols, c ∉ col) : c ∉ sep.intercalate cols := by
  induction cols with
  | nil => exact List.not_mem_nil
  | cons col cols ih =>
    rw [List.forall_mem_cons] at hcols
    cases cols with
    | nil =>
      rw [List.intercalate_singleton]
      exact hcols.1
    | cons col' cols =>
      rw [List.intercalate_cons_cons]
      simp only [List.mem_append, not_or]
      exact ⟨⟨hcols.1, hsep⟩, ih hcols.2⟩

end Columns

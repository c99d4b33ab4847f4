import Mathlib.Data.Finset.Insert
import Mathlib.Data.Finset.Card

/-!
# Explorations of a finite set

An exploration visits one place after the other and marks it. A visit is to a place that is
not marked, until all marks are wiped. Explorations compose, and a part of one is one. As long
as nothing is wiped, no place is visited again, so the number of places bounds the visits.
-/

universe u

namespace Exploration
variable {α : Type u} {places : Set α} {marked marked' marked'' : Set α}

inductive Act (α : Type u) where
  | wipe
  | visit (a : α)

/-- The acts lead from one set of marked places to another. -/
inductive Trail (places : Set α) : Set α → List (Act α) → Set α → Prop
  | nil {marked : Set α} : Trail places marked [] marked
  | wipe {marked marked' : Set α} {acts : List (Act α)} (rest : Trail places ∅ acts marked') :
      Trail places marked (.wipe :: acts) marked'
  | visit {marked marked' : Set α} {acts : List (Act α)} {a : α} (ha : a ∈ places)
      (hfresh : a ∉ marked) (rest : Trail places (insert a marked) acts marked') :
      Trail places marked (.visit a :: acts) marked'

def visits (acts : List (Act α)) : List α :=
  acts.filterMap fun act =>
    match act with
    | .wipe => none
    | .visit a => some a

theorem Trail.append {acts acts' : List (Act α)} (h : Trail places marked acts marked')
    (h' : Trail places marked' acts' marked'') : Trail places marked (acts ++ acts') marked'' := by
  induction h with
  | nil => exact h'
  | wipe rest ih => exact .wipe (ih h')
  | visit ha hfresh rest ih => exact .visit ha hfresh (ih h')

theorem Trail.split {acts acts' : List (Act α)} (h : Trail places marked (acts ++ acts') marked'') :
    ∃ marked', Trail places marked acts marked' ∧ Trail places marked' acts' marked'' := by
  induction acts generalizing marked with
  | nil => exact ⟨marked, .nil, h⟩
  | cons act acts ih =>
    cases h with
    | wipe rest =>
      obtain ⟨marked', hfront, hback⟩ := ih rest
      exact ⟨marked', .wipe hfront, hback⟩
    | visit ha hfresh rest =>
      obtain ⟨marked', hfront, hback⟩ := ih rest
      exact ⟨marked', .visit ha hfresh hfront, hback⟩

/-- A part of an exploration is one. -/
theorem Trail.part_of {acts part : List (Act α)} (h : Trail places marked acts marked')
    (hpart : part <:+: acts) : ∃ before after, Trail places before part after := by
  obtain ⟨front, back, rfl⟩ := hpart
  obtain ⟨after, hfront, -⟩ := h.split
  obtain ⟨before, -, hpart⟩ := hfront.split
  exact ⟨before, after, hpart⟩

/-- As long as nothing is wiped, the visits are to different places, none of them marked
before. -/
theorem Trail.visits_fresh {acts : List (Act α)} (h : Trail places marked acts marked')
    (hwipe : Act.wipe ∉ acts) :
    (visits acts).Nodup ∧ ∀ a ∈ visits acts, a ∈ places ∧ a ∉ marked := by
  induction h with
  | nil => exact ⟨List.nodup_nil, fun _ ha => absurd ha List.not_mem_nil⟩
  | wipe rest ih => exact absurd List.mem_cons_self hwipe
  | @visit marked marked' acts a ha hfresh rest ih =>
    obtain ⟨hnodup, hvisits⟩ := ih fun h => hwipe (List.mem_cons_of_mem _ h)
    have hcons : visits (.visit a :: acts) = a :: visits acts := rfl
    rw [hcons, List.nodup_cons, List.forall_mem_cons]
    refine ⟨⟨fun hagain => ?_, hnodup⟩, ⟨ha, hfresh⟩, fun b hb => ?_⟩
    · exact (hvisits a hagain).2 (Set.mem_insert a marked)
    · obtain ⟨hplace, hnot⟩ := hvisits b hb
      exact ⟨hplace, fun hmarked => hnot (Set.mem_insert_of_mem a hmarked)⟩

/-- The places bound the visits between two wipings. -/
theorem Trail.length_visits_le {places : Finset α} {acts : List (Act α)}
    (h : Trail (places : Set α) marked acts marked') (hwipe : Act.wipe ∉ acts) :
    (visits acts).length ≤ places.card := by
  classical
  obtain ⟨hnodup, hvisits⟩ := h.visits_fresh hwipe
  rw [← List.toFinset_card_of_nodup hnodup]
  refine Finset.card_le_card fun a ha => ?_
  exact (hvisits a (List.mem_toFinset.1 ha)).1

end Exploration

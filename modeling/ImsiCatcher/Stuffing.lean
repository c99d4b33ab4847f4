import Mathlib.Data.List.Basic

/-!
# Stuffed frames

A symbol that must not stand inside a frame is sent as an escape and the symbol changed. The
flag that ends a frame is such a symbol, and so is the escape itself.
-/

universe u

structure Stuffing (α : Type u) where
  flag : α
  escape : α
  marked : α → Bool
  change : α → α
  change_change : ∀ a, change (change a) = a
  marked_flag : marked flag = true
  marked_escape : marked escape = true
  escape_ne_flag : escape ≠ flag
  change_ne_flag : ∀ a, marked a = true → change a ≠ flag

namespace Stuffing
variable {α : Type u} (S : Stuffing α)

def stuff : List α → List α
  | [] => []
  | a :: as => if S.marked a then S.escape :: S.change a :: stuff as else a :: stuff as

@[simp] theorem stuff_nil : S.stuff [] = [] := rfl

theorem stuff_marked {a : α} (ha : S.marked a = true) (as : List α) :
    S.stuff (a :: as) = S.escape :: S.change a :: S.stuff as := by
  rw [stuff, if_pos ha]

theorem stuff_unmarked {a : α} (ha : S.marked a = false) (as : List α) :
    S.stuff (a :: as) = a :: S.stuff as := by
  rw [stuff, ha]
  rfl

theorem ne_flag_of_unmarked {a : α} (ha : S.marked a = false) : a ≠ S.flag := by
  rintro rfl
  simp [S.marked_flag] at ha

theorem ne_escape_of_unmarked {a : α} (ha : S.marked a = false) : a ≠ S.escape := by
  rintro rfl
  simp [S.marked_escape] at ha

/-- No flag stands inside a stuffed frame. -/
theorem ne_flag_of_mem_stuff {as : List α} {b : α} (hb : b ∈ S.stuff as) : b ≠ S.flag := by
  induction as with
  | nil => exact absurd hb List.not_mem_nil
  | cons a as ih =>
    cases ha : S.marked a with
    | true =>
      rw [S.stuff_marked ha, List.mem_cons, List.mem_cons] at hb
      rcases hb with rfl | rfl | hb
      · exact S.escape_ne_flag
      · exact S.change_ne_flag a ha
      · exact ih hb
    | false =>
      rw [S.stuff_unmarked ha, List.mem_cons] at hb
      rcases hb with rfl | hb
      · exact S.ne_flag_of_unmarked ha
      · exact ih hb

end Stuffing

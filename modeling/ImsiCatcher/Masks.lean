import Mathlib.Data.Nat.Notation

/-!
# Masks of an octet

A mask is cleared from an octet, or cleared and set again. Seen through another mask, the
octet shows the bits that it had where the masks are disjoint, and where they are the same it
shows whether the mask was set.
-/

namespace Masks
variable {t u : UInt8}

theorem eq_of_bits {x y : UInt8} (h : ∀ i, ∀ hi : i < 8, x.toBitVec[i] = y.toBitVec[i]) : x = y :=
  UInt8.toBitVec_inj.1 (BitVec.eq_of_getElem_eq h)

theorem disjoint_bits (h : t &&& u = 0) (i : ℕ) (hi : i < 8) :
    (t.toBitVec[i] && u.toBitVec[i]) = false := by
  have hbit := congrArg (fun x : UInt8 => x.toBitVec[i]) h
  simpa using hbit

theorem clear_and_of_disjoint (h : t &&& u = 0) (x : UInt8) : x &&& ~~~t &&& u = x &&& u := by
  apply eq_of_bits
  intro i hi
  have hbit := disjoint_bits h i hi
  simp only [UInt8.toBitVec_and, UInt8.toBitVec_not, BitVec.getElem_and, BitVec.getElem_not]
  revert hbit
  cases x.toBitVec[i] <;> cases t.toBitVec[i] <;> cases u.toBitVec[i] <;> simp

theorem set_and_of_disjoint (h : t &&& u = 0) (x : UInt8) :
    (x &&& ~~~t ||| t) &&& u = x &&& u := by
  apply eq_of_bits
  intro i hi
  have hbit := disjoint_bits h i hi
  simp only [UInt8.toBitVec_and, UInt8.toBitVec_or, UInt8.toBitVec_not, BitVec.getElem_and,
    BitVec.getElem_or, BitVec.getElem_not]
  revert hbit
  cases x.toBitVec[i] <;> cases t.toBitVec[i] <;> cases u.toBitVec[i] <;> simp

theorem clear_and_self (x : UInt8) : x &&& ~~~t &&& t = 0 := by
  apply eq_of_bits
  intro i hi
  simp only [UInt8.toBitVec_and, UInt8.toBitVec_not, BitVec.getElem_and, BitVec.getElem_not]
  cases x.toBitVec[i] <;> cases t.toBitVec[i] <;> simp

theorem set_and_self (x : UInt8) : (x &&& ~~~t ||| t) &&& t = t := by
  apply eq_of_bits
  intro i hi
  simp only [UInt8.toBitVec_and, UInt8.toBitVec_or, UInt8.toBitVec_not, BitVec.getElem_and,
    BitVec.getElem_or, BitVec.getElem_not]
  cases x.toBitVec[i] <;> cases t.toBitVec[i] <;> simp

theorem and_or_distrib (x : UInt8) : x &&& (t ||| u) = x &&& t ||| x &&& u := by
  apply eq_of_bits
  intro i hi
  simp only [UInt8.toBitVec_and, UInt8.toBitVec_or, BitVec.getElem_and, BitVec.getElem_or]
  cases x.toBitVec[i] <;> cases t.toBitVec[i] <;> cases u.toBitVec[i] <;> rfl

end Masks

import Mathlib.Algebra.Group.Nat.Defs
import Mathlib.Data.List.Basic

/-!
# Octets, bit-fields and the padded bit vectors of rest octets

Bit-fields are laid out from the least significant bit, as the packed structs of
`gsm_04_08.h` are on the host. Rest octets are read through `struct bitvec`, most
significant bit first; a bit counts as high where it differs from the padding 0x2b.
-/

namespace ImsiCatcher

abbrev Octets := List UInt8

def octet (m : Octets) (i : ℕ) : UInt8 := m.getD i 0

theorem octet_drop (m : Octets) (k i : ℕ) : octet (m.drop k) i = octet m (k + i) := by
  simp [octet, List.getD_eq_getElem?_getD]

def bits (o : UInt8) (lo width : ℕ) : ℕ := o.toNat / 2 ^ lo % 2 ^ width

/-- `ntohs` of the two octets at `i`. -/
def ntohs (m : Octets) (i : ℕ) : ℕ := (octet m i).toNat * 256 + (octet m (i + 1)).toNat

def messageType (m : Octets) : ℕ := (octet m 2).toNat

structure Bitvec where
  data : Octets
  curBit : ℕ

namespace Bitvec

/-- `bitvec_get_bit_pos_high`: nothing where the position lies behind the data. -/
def getBitPosHigh (bv : Bitvec) (bitnr : ℕ) : Option Bool :=
  if bitnr / 8 < bv.data.length then
    some (bits (octet bv.data (bitnr / 8)) (7 - bitnr % 8) 1 ≠ bits 0x2b (7 - bitnr % 8) 1)
  else none

/-- `bitvec_get_bit_high(&bv) == H`, and the vector with the bit taken. -/
def getBitHigh (bv : Bitvec) : Bool × Bitvec :=
  match bv.getBitPosHigh bv.curBit with
  | some b => (b, { bv with curBit := bv.curBit + 1 })
  | none => (false, bv)

/-- Bits read into fields that are not modelled. -/
def skip (bv : Bitvec) (n : ℕ) : Bitvec := { bv with curBit := bv.curBit + n }

end Bitvec
end ImsiCatcher

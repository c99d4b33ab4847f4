import ImsiCatcher.Octets

/-!
# Integers in network byte order

`htons` and `htonl` as the octets they leave in a message, and what `ntohs` and `ntohl` make of
these octets wherever they stand.
-/

namespace ImsiCatcher

def htons (n : ℕ) : Octets := [UInt8.ofNat (n / 256), UInt8.ofNat n]

def htonl (n : ℕ) : Octets := htons (n / 65536) ++ htons n

/-- `ntohl` of the four octets at `i`. -/
def ntohl (m : Octets) (i : ℕ) : ℕ := ntohs m i * 65536 + ntohs m (i + 2)

@[simp] theorem length_htons (n : ℕ) : (htons n).length = 2 := rfl

@[simp] theorem length_htonl (n : ℕ) : (htonl n).length = 4 := rfl

theorem octet_append_right (front m : Octets) (i : ℕ) :
    octet (front ++ m) (front.length + i) = octet m i := by
  rw [octet, octet, List.getD_eq_getElem?_getD, List.getD_eq_getElem?_getD,
    List.getElem?_append_right (Nat.le_add_right _ _), Nat.add_sub_cancel_left]

theorem ntohs_append_right (front m : Octets) (i : ℕ) :
    ntohs (front ++ m) (front.length + i) = ntohs m i := by
  rw [ntohs, ntohs, octet_append_right, Nat.add_assoc, octet_append_right]

theorem ntohs_htons {n : ℕ} (hn : n < 65536) (rest : Octets) : ntohs (htons n ++ rest) 0 = n := by
  have hhigh : (UInt8.ofNat (n / 256)).toNat = n / 256 := by
    rw [UInt8.toNat_ofNat']
    omega
  have hlow : (UInt8.ofNat n).toNat = n % 256 := UInt8.toNat_ofNat'
  change (UInt8.ofNat (n / 256)).toNat * 256 + (UInt8.ofNat n).toNat = n
  rw [hhigh, hlow]
  omega

theorem ntohl_htonl {n : ℕ} (hn : n < 4294967296) (rest : Octets) :
    ntohl (htonl n ++ rest) 0 = n := by
  have hhigh : ntohs (htons (n / 65536) ++ (htons n ++ rest)) 0 = n / 65536 :=
    ntohs_htons (by omega) _
  have hlow : ntohs (htons (n % 65536) ++ rest) 0 = n % 65536 := ntohs_htons (by omega) _
  have hsame : htons n = htons (n % 65536) := by
    have hdiv : UInt8.ofNat (n / 256) = UInt8.ofNat (n % 65536 / 256) := by
      apply UInt8.toNat_inj.1
      simp only [UInt8.toNat_ofNat']
      omega
    have hmod : UInt8.ofNat n = UInt8.ofNat (n % 65536) := by
      apply UInt8.toNat_inj.1
      simp only [UInt8.toNat_ofNat']
      omega
    rw [htons, htons, hdiv, hmod]
  have hskip : ntohs (htons (n / 65536) ++ (htons n ++ rest)) 2 = n % 65536 := by
    rw [hsame]
    exact (ntohs_append_right (htons (n / 65536)) _ 0).trans hlow
  rw [ntohl, htonl, List.append_assoc, hhigh, hskip]
  omega

end ImsiCatcher

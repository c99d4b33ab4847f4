import Mathlib.Data.Int.Notation
import ImsiCatcher.Octets

/-!
# Frequency lists

`gsm48_decode_freq_list` of `gsm48_ie.c`: the list of the ARFCNs that it marks, in the
order in which it marks them, for the bit map 0, range 1024, 512, 256, 128 and variable
bit map formats. The fields of the four range formats are those of `gsm_04_08.h`, and
the tables of `w` and of the marked indices follow the code entry by entry.
-/

namespace ImsiCatcher

/-- `n SMOD m`: C's remainder, moved up into `1..m`. -/
def smod (n m : ℤ) : ℤ := if n.tmod m ≤ 0 then n.tmod m + m else n.tmod m

-- struct gsm48_range_1024
structure Gsm48Range1024 where
  (w1Hi f0 w1Lo w2Hi w3Hi w2Lo w4Hi w3Lo w5Hi w4Lo w6Hi w5Lo w7Hi w6Lo w8Hi w7Lo w9 w8Lo : ℕ)
  (w11Hi w10 w12Hi w11Lo w13Hi w12Lo w14Hi w13Lo w15Hi w14Lo w16 w15Lo : ℕ)

def gsm48Range1024 (cd : Octets) : Gsm48Range1024 where
  w1Hi := bits (octet cd 0) 0 2
  f0 := bits (octet cd 0) 2 1
  w1Lo := bits (octet cd 1) 0 8
  w2Hi := bits (octet cd 2) 0 8
  w3Hi := bits (octet cd 3) 0 7
  w2Lo := bits (octet cd 3) 7 1
  w4Hi := bits (octet cd 4) 0 6
  w3Lo := bits (octet cd 4) 6 2
  w5Hi := bits (octet cd 5) 0 6
  w4Lo := bits (octet cd 5) 6 2
  w6Hi := bits (octet cd 6) 0 6
  w5Lo := bits (octet cd 6) 6 2
  w7Hi := bits (octet cd 7) 0 6
  w6Lo := bits (octet cd 7) 6 2
  w8Hi := bits (octet cd 8) 0 6
  w7Lo := bits (octet cd 8) 6 2
  w9 := bits (octet cd 9) 0 7
  w8Lo := bits (octet cd 9) 7 1
  w11Hi := bits (octet cd 10) 0 1
  w10 := bits (octet cd 10) 1 7
  w12Hi := bits (octet cd 11) 0 2
  w11Lo := bits (octet cd 11) 2 6
  w13Hi := bits (octet cd 12) 0 3
  w12Lo := bits (octet cd 12) 3 5
  w14Hi := bits (octet cd 13) 0 4
  w13Lo := bits (octet cd 13) 4 4
  w15Hi := bits (octet cd 14) 0 5
  w14Lo := bits (octet cd 14) 5 3
  w16 := bits (octet cd 15) 0 6
  w15Lo := bits (octet cd 15) 6 2

/-- `w[0..16]`, filled as far as the length reaches. -/
def w1024 (r : Gsm48Range1024) (len : ℕ) : List ℕ :=
  [0,
   (r.w1Hi <<< 8) ||| r.w1Lo,
   if 4 ≤ len then (r.w2Hi <<< 1) ||| r.w2Lo else 0,
   if 5 ≤ len then (r.w3Hi <<< 2) ||| r.w3Lo else 0,
   if 6 ≤ len then (r.w4Hi <<< 2) ||| r.w4Lo else 0,
   if 7 ≤ len then (r.w5Hi <<< 2) ||| r.w5Lo else 0,
   if 8 ≤ len then (r.w6Hi <<< 2) ||| r.w6Lo else 0,
   if 9 ≤ len then (r.w7Hi <<< 2) ||| r.w7Lo else 0,
   if 10 ≤ len then (r.w8Hi <<< 1) ||| r.w8Lo else 0,
   if 10 ≤ len then r.w9 else 0,
   if 11 ≤ len then r.w10 else 0,
   if 12 ≤ len then (r.w11Hi <<< 6) ||| r.w11Lo else 0,
   if 13 ≤ len then (r.w12Hi <<< 5) ||| r.w12Lo else 0,
   if 14 ≤ len then (r.w13Hi <<< 4) ||| r.w13Lo else 0,
   if 15 ≤ len then (r.w14Hi <<< 3) ||| r.w14Lo else 0,
   if 16 ≤ len then (r.w15Hi <<< 2) ||| r.w15Lo else 0,
   if 16 ≤ len then r.w16 else 0]

def marks1024 (w : ℕ → ℤ) : List (ℕ × ℤ) :=
  [(1, w 1),
   (2, smod (w 1 - 512 + w 2) 1023),
   (3, smod (w 1 + w 3) 1023),
   (4, smod (w 1 - 512 + smod (w 2 - 256 + w 4) 511) 1023),
   (5, smod (w 1 + smod (w 3 - 256 + w 5) 511) 1023),
   (6, smod (w 1 - 512 + smod (w 2 + w 6) 511) 1023),
   (7, smod (w 1 + smod (w 3 + w 7) 511) 1023),
   (8, smod (w 1 - 512 + smod (w 2 - 256 + smod (w 4 - 128 + w 8) 255) 511) 1023),
   (9, smod (w 1 + smod (w 3 - 256 + smod (w 5 - 128 + w 9) 255) 511) 1023),
   (10, smod (w 1 - 512 + smod (w 2 + smod (w 6 - 128 + w 10) 255) 511) 1023),
   (11, smod (w 1 + smod (w 3 + smod (w 7 - 128 + w 11) 255) 511) 1023),
   (12, smod (w 1 - 512 + smod (w 2 - 256 + smod (w 4 + w 12) 255) 511) 1023),
   (13, smod (w 1 + smod (w 3 - 256 + smod (w 5 + w 13) 255) 511) 1023),
   (14, smod (w 1 - 512 + smod (w 2 + smod (w 6 + w 14) 255) 511) 1023),
   (15, smod (w 1 + smod (w 3 + smod (w 7 + w 15) 255) 511) 1023),
   (16, smod (w 1 - 512 + smod (w 2 - 256 +
     smod (w 4 - 128 + smod (w 8 - 64 + w 16) 127) 255) 511) 1023)]

-- struct gsm48_range_512
structure Gsm48Range512 where
  (origArfcnHi origArfcnMid w1Hi origArfcnLo w2Hi w1Lo w3Hi w2Lo w4Hi w3Lo w5 w4Lo w7Hi w6 : ℕ)
  (w8Hi w7Lo w9Hi w8Lo w10 w9Lo w12Hi w11 w13Hi w12Lo w14 w13Lo w16Hi w15 w17 w16Lo : ℕ)

def gsm48Range512 (cd : Octets) : Gsm48Range512 where
  origArfcnHi := bits (octet cd 0) 0 1
  origArfcnMid := bits (octet cd 1) 0 8
  w1Hi := bits (octet cd 2) 0 7
  origArfcnLo := bits (octet cd 2) 7 1
  w2Hi := bits (octet cd 3) 0 6
  w1Lo := bits (octet cd 3) 6 2
  w3Hi := bits (octet cd 4) 0 6
  w2Lo := bits (octet cd 4) 6 2
  w4Hi := bits (octet cd 5) 0 6
  w3Lo := bits (octet cd 5) 6 2
  w5 := bits (octet cd 6) 0 7
  w4Lo := bits (octet cd 6) 7 1
  w7Hi := bits (octet cd 7) 0 1
  w6 := bits (octet cd 7) 1 7
  w8Hi := bits (octet cd 8) 0 2
  w7Lo := bits (octet cd 8) 2 6
  w9Hi := bits (octet cd 9) 0 4
  w8Lo := bits (octet cd 9) 4 4
  w10 := bits (octet cd 10) 0 6
  w9Lo := bits (octet cd 10) 6 2
  w12Hi := bits (octet cd 11) 0 2
  w11 := bits (octet cd 11) 2 6
  w13Hi := bits (octet cd 12) 0 4
  w12Lo := bits (octet cd 12) 4 4
  w14 := bits (octet cd 13) 0 6
  w13Lo := bits (octet cd 13) 6 2
  w16Hi := bits (octet cd 14) 0 2
  w15 := bits (octet cd 14) 2 6
  w17 := bits (octet cd 15) 0 5
  w16Lo := bits (octet cd 15) 5 3

def w512 (r : Gsm48Range512) (len : ℕ) : List ℕ :=
  [(r.origArfcnHi <<< 9) ||| (r.origArfcnMid <<< 1) ||| r.origArfcnLo,
   (r.w1Hi <<< 2) ||| r.w1Lo,
   if 5 ≤ len then (r.w2Hi <<< 2) ||| r.w2Lo else 0,
   if 6 ≤ len then (r.w3Hi <<< 2) ||| r.w3Lo else 0,
   if 7 ≤ len then (r.w4Hi <<< 1) ||| r.w4Lo else 0,
   if 7 ≤ len then r.w5 else 0,
   if 8 ≤ len then r.w6 else 0,
   if 9 ≤ len then (r.w7Hi <<< 6) ||| r.w7Lo else 0,
   if 10 ≤ len then (r.w8Hi <<< 4) ||| r.w8Lo else 0,
   if 11 ≤ len then (r.w9Hi <<< 2) ||| r.w9Lo else 0,
   if 11 ≤ len then r.w10 else 0,
   if 12 ≤ len then r.w11 else 0,
   if 13 ≤ len then (r.w12Hi <<< 4) ||| r.w12Lo else 0,
   if 14 ≤ len then (r.w13Hi <<< 2) ||| r.w13Lo else 0,
   if 14 ≤ len then r.w14 else 0,
   if 15 ≤ len then r.w15 else 0,
   if 16 ≤ len then (r.w16Hi <<< 3) ||| r.w16Lo else 0,
   if 16 ≤ len then r.w17 else 0]

def marks512 (w : ℕ → ℤ) : List (ℕ × ℤ) :=
  [(1, (w 0 + w 1) % 1024),
   (2, (w 0 + smod (w 1 - 256 + w 2) 511) % 1024),
   (3, (w 0 + smod (w 1 + w 3) 511) % 1024),
   (4, (w 0 + smod (w 1 - 256 + smod (w 2 - 128 + w 4) 255) 511) % 1024),
   (5, (w 0 + smod (w 1 + smod (w 3 - 128 + w 5) 255) 511) % 1024),
   (6, (w 0 + smod (w 1 - 256 + smod (w 2 + w 6) 255) 511) % 1024),
   (7, (w 0 + smod (w 1 + smod (w 3 + w 7) 255) 511) % 1024),
   (8, (w 0 + smod (w 1 - 256 + smod (w 2 - 128 + smod (w 4 - 64 + w 8) 127) 255) 511) % 1024),
   (9, (w 0 + smod (w 1 + smod (w 3 - 128 + smod (w 5 - 64 + w 9) 127) 255) 511) % 1024),
   (10, (w 0 + smod (w 1 - 256 + smod (w 2 + smod (w 6 - 64 + w 10) 127) 255) 511) % 1024),
   (11, (w 0 + smod (w 1 + smod (w 3 + smod (w 7 - 64 + w 11) 127) 255) 511) % 1024),
   (12, (w 0 + smod (w 1 - 256 + smod (w 2 - 128 + smod (w 4 + w 12) 127) 255) 511) % 1024),
   (13, (w 0 + smod (w 1 + smod (w 3 - 128 + smod (w 5 + w 13) 127) 255) 511) % 1024),
   (14, (w 0 + smod (w 1 - 256 + smod (w 2 + smod (w 6 + w 14) 127) 255) 511) % 1024),
   (15, (w 0 + smod (w 1 + smod (w 3 + smod (w 7 + w 15) 127) 255) 511) % 1024),
   (16, (w 0 + smod (w 1 - 256 + smod (w 2 - 128 +
     smod (w 4 - 64 + smod (w 8 - 32 + w 16) 63) 127) 255) 511) % 1024),
   (17, (w 0 + smod (w 1 + smod (w 3 - 128 +
     smod (w 5 - 64 + smod (w 9 - 32 + w 17) 63) 127) 255) 511) % 1024)]

-- struct gsm48_range_256
structure Gsm48Range256 where
  (origArfcnHi origArfcnMid w1Hi origArfcnLo w2 w1Lo w4Hi w3 w5Hi w4Lo w6Hi w5Lo w8Hi w7 w6Lo : ℕ)
  (w9Hi w8Lo w11Hi w10 w9Lo w12 w11Lo w14Hi w13 w16Hi w15 w14Lo w18Hi w17 w16Lo w20Hi w19 : ℕ)
  (w18Lo w21 w20Lo : ℕ)

def gsm48Range256 (cd : Octets) : Gsm48Range256 where
  origArfcnHi := bits (octet cd 0) 0 1
  origArfcnMid := bits (octet cd 1) 0 8
  w1Hi := bits (octet cd 2) 0 7
  origArfcnLo := bits (octet cd 2) 7 1
  w2 := bits (octet cd 3) 0 7
  w1Lo := bits (octet cd 3) 7 1
  w4Hi := bits (octet cd 4) 0 1
  w3 := bits (octet cd 4) 1 7
  w5Hi := bits (octet cd 5) 0 3
  w4Lo := bits (octet cd 5) 3 5
  w6Hi := bits (octet cd 6) 0 5
  w5Lo := bits (octet cd 6) 5 3
  w8Hi := bits (octet cd 7) 0 1
  w7 := bits (octet cd 7) 1 6
  w6Lo := bits (octet cd 7) 7 1
  w9Hi := bits (octet cd 8) 0 4
  w8Lo := bits (octet cd 8) 4 4
  w11Hi := bits (octet cd 9) 0 2
  w10 := bits (octet cd 9) 2 5
  w9Lo := bits (octet cd 9) 7 1
  w12 := bits (octet cd 10) 0 5
  w11Lo := bits (octet cd 10) 5 3
  w14Hi := bits (octet cd 11) 0 3
  w13 := bits (octet cd 11) 3 5
  w16Hi := bits (octet cd 12) 0 1
  w15 := bits (octet cd 12) 1 5
  w14Lo := bits (octet cd 12) 6 2
  w18Hi := bits (octet cd 13) 0 1
  w17 := bits (octet cd 13) 1 4
  w16Lo := bits (octet cd 13) 5 3
  w20Hi := bits (octet cd 14) 0 1
  w19 := bits (octet cd 14) 1 4
  w18Lo := bits (octet cd 14) 5 3
  w21 := bits (octet cd 15) 1 4
  w20Lo := bits (octet cd 15) 5 3

def w256 (r : Gsm48Range256) (len : ℕ) : List ℕ :=
  [(r.origArfcnHi <<< 9) ||| (r.origArfcnMid <<< 1) ||| r.origArfcnLo,
   (r.w1Hi <<< 1) ||| r.w1Lo,
   if 4 ≤ len then r.w2 else 0,
   if 5 ≤ len then r.w3 else 0,
   if 6 ≤ len then (r.w4Hi <<< 5) ||| r.w4Lo else 0,
   if 7 ≤ len then (r.w5Hi <<< 3) ||| r.w5Lo else 0,
   if 8 ≤ len then (r.w6Hi <<< 1) ||| r.w6Lo else 0,
   if 8 ≤ len then r.w7 else 0,
   if 9 ≤ len then (r.w8Hi <<< 4) ||| r.w8Lo else 0,
   if 10 ≤ len then (r.w9Hi <<< 1) ||| r.w9Lo else 0,
   if 10 ≤ len then r.w10 else 0,
   if 11 ≤ len then (r.w11Hi <<< 3) ||| r.w11Lo else 0,
   if 11 ≤ len then r.w12 else 0,
   if 12 ≤ len then r.w13 else 0,
   if 13 ≤ len then r.w15 else 0,
   if 13 ≤ len then (r.w14Hi <<< 2) ||| r.w14Lo else 0,
   if 14 ≤ len then (r.w16Hi <<< 3) ||| r.w16Lo else 0,
   if 14 ≤ len then r.w17 else 0,
   if 15 ≤ len then r.w19 else 0,
   if 15 ≤ len then (r.w18Hi <<< 3) ||| r.w18Lo else 0,
   if 16 ≤ len then (r.w20Hi <<< 3) ||| r.w20Lo else 0,
   if 16 ≤ len then r.w21 else 0]

def marks256 (w : ℕ → ℤ) : List (ℕ × ℤ) :=
  [(1, (w 0 + w 1) % 1024),
   (2, (w 0 + smod (w 1 - 128 + w 2) 255) % 1024),
   (3, (w 0 + smod (w 1 + w 3) 255) % 1024),
   (4, (w 0 + smod (w 1 - 128 + smod (w 2 - 64 + w 4) 127) 255) % 1024),
   (5, (w 0 + smod (w 1 + smod (w 3 - 64 + w 5) 127) 255) % 1024),
   (6, (w 0 + smod (w 1 - 128 + smod (w 2 + w 6) 127) 255) % 1024),
   (7, (w 0 + smod (w 1 + smod (w 3 + w 7) 127) 255) % 1024),
   (8, (w 0 + smod (w 1 - 128 + smod (w 2 - 64 + smod (w 4 - 32 + w 8) 63) 127) 255) % 1024),
   (9, (w 0 + smod (w 1 + smod (w 3 - 64 + smod (w 5 - 32 + w 9) 63) 127) 255) % 1024),
   (10, (w 0 + smod (w 1 - 128 + smod (w 2 + smod (w 6 - 32 + w 10) 63) 127) 255) % 1024),
   (11, (w 0 + smod (w 1 + smod (w 3 + smod (w 7 - 32 + w 11) 63) 127) 255) % 1024),
   (12, (w 0 + smod (w 1 - 128 + smod (w 2 - 64 + smod (w 4 + w 12) 63) 127) 255) % 1024),
   (13, (w 0 + smod (w 1 + smod (w 3 - 64 + smod (w 5 + w 13) 63) 127) 255) % 1024),
   (14, (w 0 + smod (w 1 - 128 + smod (w 2 + smod (w 6 + w 14) 63) 127) 255) % 1024),
   (15, (w 0 + smod (w 1 + smod (w 3 + smod (w 7 + w 15) 63) 127) 255) % 1024),
   (16, (w 0 + smod (w 1 - 128 + smod (w 2 - 64 +
     smod (w 4 - 32 + smod (w 8 - 16 + w 16) 31) 63) 127) 255) % 1024),
   (17, (w 0 + smod (w 1 + smod (w 3 - 64 +
     smod (w 5 - 32 + smod (w 9 - 16 + w 17) 31) 63) 127) 255) % 1024),
   (18, (w 0 + smod (w 1 - 128 + smod (w 2 +
     smod (w 6 - 32 + smod (w 10 - 16 + w 18) 31) 63) 127) 255) % 1024),
   (19, (w 0 + smod (w 1 + smod (w 3 +
     smod (w 7 - 32 + smod (w 11 - 16 + w 19) 31) 63) 127) 255) % 1024),
   (20, (w 0 + smod (w 1 - 128 + smod (w 2 - 64 +
     smod (w 4 + smod (w 12 - 16 + w 20) 31) 63) 127) 255) % 1024),
   (21, (w 0 + smod (w 1 + smod (w 3 - 64 +
     smod (w 5 + smod (w 13 - 16 + w 21) 31) 63) 127) 255) % 1024)]

-- struct gsm48_range_128
structure Gsm48Range128 where
  (origArfcnHi origArfcnMid w1 origArfcnLo w3Hi w2 w4Hi w3Lo w6Hi w5 w4Lo w7 w6Lo w9 w8 w11 : ℕ)
  (w10 w13 w12 w15 w14 w18Hi w17 w16 w21Hi w20 w19 w18Lo w23 w22 w21Lo w26Hi w25 w24 w28 w27 : ℕ)
  (w26Lo : ℕ)

def gsm48Range128 (cd : Octets) : Gsm48Range128 where
  origArfcnHi := bits (octet cd 0) 0 1
  origArfcnMid := bits (octet cd 1) 0 8
  w1 := bits (octet cd 2) 0 7
  origArfcnLo := bits (octet cd 2) 7 1
  w3Hi := bits (octet cd 3) 0 2
  w2 := bits (octet cd 3) 2 6
  w4Hi := bits (octet cd 4) 0 4
  w3Lo := bits (octet cd 4) 4 4
  w6Hi := bits (octet cd 5) 0 2
  w5 := bits (octet cd 5) 2 5
  w4Lo := bits (octet cd 5) 7 1
  w7 := bits (octet cd 6) 0 5
  w6Lo := bits (octet cd 6) 5 3
  w9 := bits (octet cd 7) 0 4
  w8 := bits (octet cd 7) 4 4
  w11 := bits (octet cd 8) 0 4
  w10 := bits (octet cd 8) 4 4
  w13 := bits (octet cd 9) 0 4
  w12 := bits (octet cd 9) 4 4
  w15 := bits (octet cd 10) 0 4
  w14 := bits (octet cd 10) 4 4
  w18Hi := bits (octet cd 11) 0 2
  w17 := bits (octet cd 11) 2 3
  w16 := bits (octet cd 11) 5 3
  w21Hi := bits (octet cd 12) 0 1
  w20 := bits (octet cd 12) 1 3
  w19 := bits (octet cd 12) 4 3
  w18Lo := bits (octet cd 12) 7 1
  w23 := bits (octet cd 13) 0 3
  w22 := bits (octet cd 13) 3 3
  w21Lo := bits (octet cd 13) 6 2
  w26Hi := bits (octet cd 14) 0 2
  w25 := bits (octet cd 14) 2 3
  w24 := bits (octet cd 14) 5 3
  w28 := bits (octet cd 15) 1 3
  w27 := bits (octet cd 15) 4 3
  w26Lo := bits (octet cd 15) 7 1

def w128 (r : Gsm48Range128) (len : ℕ) : List ℕ :=
  [(r.origArfcnHi <<< 9) ||| (r.origArfcnMid <<< 1) ||| r.origArfcnLo,
   r.w1,
   if 4 ≤ len then r.w2 else 0,
   if 5 ≤ len then (r.w3Hi <<< 4) ||| r.w3Lo else 0,
   if 6 ≤ len then (r.w4Hi <<< 1) ||| r.w4Lo else 0,
   if 6 ≤ len then r.w5 else 0,
   if 7 ≤ len then (r.w6Hi <<< 3) ||| r.w6Lo else 0,
   if 7 ≤ len then r.w7 else 0,
   if 8 ≤ len then r.w8 else 0,
   if 8 ≤ len then r.w9 else 0,
   if 9 ≤ len then r.w10 else 0,
   if 9 ≤ len then r.w11 else 0,
   if 10 ≤ len then r.w12 else 0,
   if 10 ≤ len then r.w13 else 0,
   if 11 ≤ len then r.w14 else 0,
   if 11 ≤ len then r.w15 else 0,
   if 12 ≤ len then r.w16 else 0,
   if 12 ≤ len then r.w17 else 0,
   if 13 ≤ len then (r.w18Hi <<< 1) ||| r.w18Lo else 0,
   if 13 ≤ len then r.w19 else 0,
   if 13 ≤ len then r.w20 else 0,
   if 14 ≤ len then (r.w21Hi <<< 2) ||| r.w21Lo else 0,
   if 14 ≤ len then r.w22 else 0,
   if 14 ≤ len then r.w23 else 0,
   if 15 ≤ len then r.w24 else 0,
   if 15 ≤ len then r.w25 else 0,
   if 16 ≤ len then (r.w26Hi <<< 1) ||| r.w26Lo else 0,
   if 16 ≤ len then r.w27 else 0,
   if 16 ≤ len then r.w28 else 0]

def marks128 (w : ℕ → ℤ) : List (ℕ × ℤ) :=
  [(1, (w 0 + w 1) % 1024),
   (2, (w 0 + smod (w 1 - 64 + w 2) 127) % 1024),
   (3, (w 0 + smod (w 1 + w 3) 127) % 1024),
   (4, (w 0 + smod (w 1 - 64 + smod (w 2 - 32 + w 4) 63) 127) % 1024),
   (5, (w 0 + smod (w 1 + smod (w 3 - 32 + w 5) 63) 127) % 1024),
   (6, (w 0 + smod (w 1 - 64 + smod (w 2 + w 6) 63) 127) % 1024),
   (7, (w 0 + smod (w 1 + smod (w 3 + w 7) 63) 127) % 1024),
   (8, (w 0 + smod (w 1 - 64 + smod (w 2 - 32 + smod (w 4 - 16 + w 8) 31) 63) 127) % 1024),
   (9, (w 0 + smod (w 1 + smod (w 3 - 32 + smod (w 5 - 16 + w 9) 31) 63) 127) % 1024),
   (10, (w 0 + smod (w 1 - 64 + smod (w 2 + smod (w 6 - 16 + w 10) 31) 63) 127) % 1024),
   (11, (w 0 + smod (w 1 + smod (w 3 + smod (w 7 - 16 + w 11) 31) 63) 127) % 1024),
   (12, (w 0 + smod (w 1 - 64 + smod (w 2 - 32 + smod (w 4 + w 12) 31) 63) 127) % 1024),
   (13, (w 0 + smod (w 1 + smod (w 3 - 32 + smod (w 5 + w 13) 31) 63) 127) % 1024),
   (14, (w 0 + smod (w 1 - 64 + smod (w 2 + smod (w 6 + w 14) 31) 63) 127) % 1024),
   (15, (w 0 + smod (w 1 + smod (w 3 + smod (w 7 + w 15) 31) 63) 127) % 1024),
   (16, (w 0 + smod (w 1 - 64 + smod (w 2 - 32 +
     smod (w 4 - 16 + smod (w 8 - 8 + w 16) 15) 31) 63) 127) % 1024),
   (17, (w 0 + smod (w 1 + smod (w 3 - 32 +
     smod (w 5 - 16 + smod (w 9 - 8 + w 17) 15) 31) 63) 127) % 1024),
   (18, (w 0 + smod (w 1 - 64 + smod (w 2 +
     smod (w 6 - 16 + smod (w 10 - 8 + w 18) 15) 31) 63) 127) % 1024),
   (19, (w 0 + smod (w 1 + smod (w 3 +
     smod (w 7 - 16 + smod (w 11 - 8 + w 19) 15) 31) 63) 127) % 1024),
   (20, (w 0 + smod (w 1 - 64 + smod (w 2 - 32 +
     smod (w 4 + smod (w 12 - 8 + w 20) 15) 31) 63) 127) % 1024),
   (21, (w 0 + smod (w 1 + smod (w 3 - 32 +
     smod (w 5 + smod (w 13 - 8 + w 21) 15) 31) 63) 127) % 1024),
   (22, (w 0 + smod (w 1 - 64 + smod (w 2 +
     smod (w 6 + smod (w 14 - 8 + w 22) 15) 31) 63) 127) % 1024),
   (23, (w 0 + smod (w 1 + smod (w 3 + smod (w 7 + smod (w 15 - 8 + w 23) 15) 31) 63) 127) % 1024),
   (24, (w 0 + smod (w 1 - 64 + smod (w 2 - 32 +
     smod (w 4 - 16 + smod (w 8 + w 24) 15) 31) 63) 127) % 1024),
   (25, (w 0 + smod (w 1 + smod (w 3 - 32 +
     smod (w 5 - 16 + smod (w 9 + w 25) 15) 31) 63) 127) % 1024),
   (26, (w 0 + smod (w 1 - 64 + smod (w 2 +
     smod (w 6 - 16 + smod (w 10 + w 26) 15) 31) 63) 127) % 1024),
   (27, (w 0 + smod (w 1 + smod (w 3 + smod (w 7 - 16 + smod (w 11 + w 27) 15) 31) 63) 127) % 1024),
   (28, (w 0 + smod (w 1 - 64 + smod (w 2 - 32 +
     smod (w 4 + smod (w 12 + w 28) 15) 31) 63) 127) % 1024)]

/-- `if (w[k]) f[index].mask |= frqt;` for each entry of a table. -/
def markNonzero (w : ℕ → ℤ) (table : List (ℕ × ℤ)) : List ℕ :=
  (table.filter fun e => w e.1 ≠ 0).map fun e => e.2.toNat

def wOf (ws : List ℕ) (k : ℕ) : ℤ := (ws.getD k 0 : ℕ)

def bitMap0 (cd : Octets) : List ℕ :=
  (List.range' 1 124).filter fun i => bits (octet cd (15 - (i - 1) / 8)) ((i - 1) % 8) 1 = 1

def variableBitMap (cd : Octets) (len : ℕ) : List ℕ :=
  let orig := (bits (octet cd 0) 0 1 <<< 9) ||| ((octet cd 1).toNat <<< 1) |||
    bits (octet cd 2) 7 1
  orig :: ((List.range' 1 ((len - 2) * 8 - 1)).filter
    fun i => bits (octet cd (2 + i / 8)) (7 - i % 8) 1 = 1).map fun i => (orig + i) % 1024

/-- The ARFCNs that `gsm48_decode_freq_list` marks; a list that is too short for its
format, or of no known format, marks none. -/
def gsm48DecodeFreqList (cd : Octets) (len : ℕ) (mask : UInt8) : List ℕ :=
  if octet cd 0 &&& 0xc0 &&& mask = 0x00 then
    if len < 16 then [] else bitMap0 cd
  else if octet cd 0 &&& 0xc8 &&& mask = 0x80 then
    if len < 2 then []
    else
      let r := gsm48Range1024 cd
      let w := wOf (w1024 r len)
      (if r.f0 = 1 then [0] else []) ++ markNonzero w (marks1024 w)
  else if octet cd 0 &&& 0xce &&& mask = 0x88 then
    if len < 4 then []
    else
      let w := wOf (w512 (gsm48Range512 cd) len)
      (w 0).toNat :: markNonzero w (marks512 w)
  else if octet cd 0 &&& 0xce &&& mask = 0x8a then
    if len < 4 then []
    else
      let w := wOf (w256 (gsm48Range256 cd) len)
      (w 0).toNat :: markNonzero w (marks256 w)
  else if octet cd 0 &&& 0xce &&& mask = 0x8c then
    if len < 3 then []
    else
      let w := wOf (w128 (gsm48Range128 cd) len)
      (w 0).toNat :: markNonzero w (marks128 w)
  else if octet cd 0 &&& 0xce &&& mask = 0x8e then
    if len < 3 then [] else variableBitMap cd len
  else []

end ImsiCatcher

import ImsiCatcher.Ccch

/-!
# Paging requests

The three types of a paging request as a network composes them: a header of four octets, the
identities, and rest octets up to the end of the message. Where the optional identity is
missing, the rest does not begin with its tag. An identity is named by its type and its digits,
as `pch_scan` prints them.
-/

namespace ImsiCatcher

/-! ### Names of identities -/

def identityName (target id : Text) : Text := target ++ " M(".toList ++ id ++ ") \n".toList

def mobileIdentityName (mi : Octets) (len : ℕ) : Text :=
  identityName (miTypeToString (octet mi 0 &&& gsmMiTypeMask)).toList (gsm48MiToString mi len)

/-! ### Messages -/

/-- The value part of a mobile identity. -/
structure MobileIdentity where
  octets : Octets
  ne_nil : octets ≠ []
  short : octets.length < 256

namespace MobileIdentity

def isNone (mi : MobileIdentity) : Bool := octet mi.octets 0 &&& gsmMiTypeMask = gsmMiTypeNone

def name (mi : MobileIdentity) : Text := mobileIdentityName mi.octets mi.octets.length

/-- The identities that a paging of this one is for. -/
def identities (mi : MobileIdentity) : List Text := if mi.isNone then [] else [mi.name]

def lv (mi : MobileIdentity) : Octets := UInt8.ofNat mi.octets.length :: mi.octets

end MobileIdentity

/-- The end of a message: an optional identity with its tag, and the rest octets. -/
structure PagingTail where
  identity : Option MobileIdentity
  rest : Octets
  rest_head : identity = none → rest.head? ≠ some gsm48IeMobileId

namespace PagingTail

def encode (t : PagingTail) : Octets :=
  match t.identity with
  | some mi => gsm48IeMobileId :: mi.lv ++ t.rest
  | none => t.rest

def identities (t : PagingTail) : List Text :=
  match t.identity with
  | some mi => mi.identities
  | none => []

end PagingTail

/-- A header without its message type. -/
structure PagingHeader where
  l2Plen : UInt8
  protoDiscr : UInt8
  pagMode : UInt8

def PagingHeader.encode (h : PagingHeader) (msgType : UInt8) : Octets :=
  [h.l2Plen, h.protoDiscr, msgType, h.pagMode]

structure Tmsi where
  octet0 : UInt8
  octet1 : UInt8
  octet2 : UInt8
  octet3 : UInt8

def Tmsi.encode (t : Tmsi) : Octets := [t.octet0, t.octet1, t.octet2, t.octet3]

def Tmsi.name (t : Tmsi) : Text := identityName "TMSI".toList (tmsiText t.encode 0)

inductive PagingRequest where
  | type1 (header : PagingHeader) (first : MobileIdentity) (tail : PagingTail)
  | type2 (header : PagingHeader) (tmsi1 tmsi2 : Tmsi) (tail : PagingTail)
  | type3 (header : PagingHeader) (tmsi1 tmsi2 tmsi3 tmsi4 : Tmsi) (rest : Octets)

namespace PagingRequest

def encode : PagingRequest → Octets
  | type1 header first tail => header.encode 0x21 ++ first.lv ++ tail.encode
  | type2 header tmsi1 tmsi2 tail =>
    header.encode 0x22 ++ tmsi1.encode ++ tmsi2.encode ++ tail.encode
  | type3 header tmsi1 tmsi2 tmsi3 tmsi4 rest =>
    header.encode 0x24 ++ tmsi1.encode ++ tmsi2.encode ++ tmsi3.encode ++ tmsi4.encode ++ rest

/-- The names of the identities that are paged. -/
def identities : PagingRequest → List Text
  | type1 _ first tail => first.identities ++ tail.identities
  | type2 _ tmsi1 tmsi2 tail => [tmsi1.name, tmsi2.name] ++ tail.identities
  | type3 _ tmsi1 tmsi2 tmsi3 tmsi4 _ => [tmsi1.name, tmsi2.name, tmsi3.name, tmsi4.name]

end PagingRequest

/-- An identity with its tag and at least one octet behind it. -/
def identityInside : Octets → Bool
  | tag :: len :: _ :: more => tag = gsm48IeMobileId ∧ len.toNat ≤ more.length
  | _ => false

/-- The same, one octet too late, and not of type none. -/
def identityOneBehind : Octets → Bool
  | _ :: element =>
    identityInside element ∧ octet element 2 &&& gsmMiTypeMask ≠ gsmMiTypeNone
  | [] => false

def elementName (element : Octets) : Text :=
  mobileIdentityName (element.drop 2) (octet element 1).toNat

/-- The identity that is read one octet too late. -/
def misread (element : Octets) : List Text :=
  if identityOneBehind element then [elementName element.tail] else []

def PagingRequest.Readable : PagingRequest → Prop
  | type1 _ first tail =>
    (first.isNone = true ∨ tail.encode ≠ []) ∧ misread tail.encode = tail.identities
  | type2 _ _ _ tail => tail.identity ≠ none → (tail.rest ≠ [] ↔ tail.identities ≠ [])
  | type3 _ _ _ _ _ rest => rest ≠ []

instance : DecidablePred PagingRequest.Readable
  | .type1 _ _ _ => inferInstanceAs (Decidable ((_ ∨ _) ∧ _ = _))
  | .type2 _ _ _ _ => inferInstanceAs (Decidable (_ → (_ ↔ _)))
  | .type3 _ _ _ _ _ _ => inferInstanceAs (Decidable (_ ≠ _))

/-! ### Lengths and octets -/

namespace MobileIdentity

theorem toNat_length (mi : MobileIdentity) : (UInt8.ofNat mi.octets.length).toNat =
    mi.octets.length := UInt8.toNat_ofNat_of_lt' mi.short

theorem identities_length_le_one (mi : MobileIdentity) : mi.identities.length ≤ 1 := by
  unfold identities
  split <;> simp

end MobileIdentity

namespace PagingTail

theorem identities_length_le_one (t : PagingTail) : t.identities.length ≤ 1 := by
  unfold identities
  split
  · exact MobileIdentity.identities_length_le_one _
  · exact Nat.zero_le 1

theorem identities_eq_nil_of_nil {t : PagingTail} (h : t.encode = []) : t.identities = [] := by
  unfold encode at h
  unfold identities
  cases hidentity : t.identity with
  | none => rfl
  | some mi =>
    rw [hidentity] at h
    exact absurd h (List.cons_ne_nil _ _)

/-- The element is inside exactly if it is there and an octet follows it. -/
theorem identityInside_encode (t : PagingTail) :
    identityInside t.encode = true ↔ t.identity ≠ none ∧ t.rest ≠ [] := by
  unfold encode
  cases hidentity : t.identity with
  | none =>
    have hhead := t.rest_head hidentity
    simp only [ne_eq, not_true_eq_false, false_and, iff_false]
    intro hinside
    rcases hrest : t.rest with _ | ⟨tag, _ | ⟨len, _ | ⟨first, more⟩⟩⟩
    all_goals rw [hrest] at hinside hhead
    · exact absurd hinside (by decide)
    · exact absurd hinside (by simp [identityInside])
    · exact absurd hinside (by simp [identityInside])
    · simp only [identityInside, Bool.decide_and, Bool.and_eq_true, decide_eq_true_eq] at hinside
      exact hhead (by rw [hinside.1]; rfl)
  | some mi =>
    obtain ⟨first, more, hocts⟩ := List.exists_cons_of_ne_nil mi.ne_nil
    have hlen := mi.toNat_length
    have hlength : mi.octets.length = more.length + 1 := by rw [hocts, List.length_cons]
    have hrest : t.rest ≠ [] ↔ 0 < t.rest.length := List.length_pos_iff.symm
    simp only [MobileIdentity.lv, hocts, List.cons_append, identityInside, Bool.decide_and,
      decide_true, Bool.true_and, decide_eq_true_eq, List.length_append]
    rw [hocts] at hlen
    rw [hlen, hrest]
    simp
    omega

end PagingTail
end ImsiCatcher

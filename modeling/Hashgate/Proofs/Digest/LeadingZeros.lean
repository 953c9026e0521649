import Hashgate.Digest.LeadingZeros

/-! # Counting leading zeros

The test for leading zeros looks at whole octets first and then at the rest of one more.  The count
goes octet by octet.  Both agree, since eight zeros at the front can be taken away from either.

* `hasLeadingZeros_iff` — the test compares a number with the count.
-/

namespace Hashgate

variable {octet : UInt8} {octets : List UInt8} {bits : Nat}

/-! ## The test, octet by octet -/

theorem hasLeadingZeros_nil (bits : Nat) : hasLeadingZeros [] bits = true ↔ bits = 0 := by
  simp only [hasLeadingZeros, List.length_nil, List.getElem?_nil, List.take_nil, List.all_nil,
    Bool.and_true, Bool.or_false, Bool.and_eq_true, decide_eq_true_eq, beq_iff_eq]
  omega

/-- Less than an octet is a matter of the first one. -/
theorem hasLeadingZeros_cons_of_lt (few : bits < 8) :
    hasLeadingZeros (octet :: octets) bits = true ↔ bits = 0 ∨ octet.toNat < Nat.pow 2 (8 - bits) := by
  have whole : bits / 8 = 0 := Nat.div_eq_of_lt few
  have left : bits % 8 = bits := Nat.mod_eq_of_lt few
  simp [hasLeadingZeros, whole, left]

/-- An octet or more is a matter of the first one and the others. -/
theorem hasLeadingZeros_cons_of_le (many : 8 ≤ bits) :
    hasLeadingZeros (octet :: octets) bits = true ↔
      octet = 0 ∧ hasLeadingZeros octets (bits - 8) = true := by
  have whole : bits / 8 = (bits - 8) / 8 + 1 := by omega
  have left : bits % 8 = (bits - 8) % 8 := by omega
  simp [hasLeadingZeros, whole, left, and_assoc, and_left_comm]

/-! ## The count -/

theorem le_octetZeros_iff (nonzero : octet ≠ 0) (few : bits < 8) :
    bits ≤ octetZeros octet ↔ octet.toNat < Nat.pow 2 (8 - bits) := by
  have positive : octet.toNat ≠ 0 := fun zero => nonzero (UInt8.toNat_inj.mp zero)
  have small : octet.toNat.log2 < 8 := (Nat.log2_lt positive).mpr octet.toNat_lt
  have below : octet.toNat.log2 < 8 - bits ↔ octet.toNat < Nat.pow 2 (8 - bits) :=
    Nat.log2_lt positive
  rw [octetZeros, if_neg nonzero, ← below]
  omega

theorem hasLeadingZeros_iff : hasLeadingZeros octets bits = true ↔ bits ≤ leadingZeros octets := by
  -- The count goes on only past an octet of zeros, and so does the test if it asks for more than one.
  induction octets generalizing bits with
  | nil => rw [hasLeadingZeros_nil, leadingZeros, Nat.le_zero]
  | cons octet octets ih =>
    rw [leadingZeros]
    by_cases few : bits < 8
    · rw [hasLeadingZeros_cons_of_lt few]
      by_cases zero : octet = 0
      · have positive : 0 < Nat.pow 2 (8 - bits) := Nat.two_pow_pos _
        simp only [zero, if_true, UInt8.toNat_zero, positive, or_true, true_iff]
        omega
      · rw [if_neg zero, ← le_octetZeros_iff zero few]
        omega
    · have many := Nat.le_of_not_lt few
      rw [hasLeadingZeros_cons_of_le many, ih]
      by_cases zero : octet = 0
      · simp only [zero, if_true, true_and]
        omega
      · have short : octetZeros octet < 8 := by
          rw [octetZeros, if_neg zero]
          omega
        simp only [zero, if_false, false_and, false_iff]
        omega

end Hashgate

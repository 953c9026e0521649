import Mathlib.Data.Nat.Digits.Defs
import Hashgate.Proofs.Digest.LeadingZeros

/-! # Octets in base two

Octets can be taken as one number, or as the row of all their bits.  The leading zeros are the same in
both: a row of bits begins with so many zeros exactly if the number is below the power of two that is so
many places short of the width.  The count of leading zeros and the test for them are compared with these
here, and so with one another.

* `bigEndian`, `octetBits` — the number and the row of bits, the most significant first.
* `le_leadingZeros_iff` — the count, by the size of the number.
* `flatMap_octetBits` — the row of bits is that of the number.
* `leadingZeros_decides` — the count, the test, the number and the row agree.
-/

namespace Hashgate

variable {octet : UInt8} {octets : List UInt8} {bits width n : Nat}

/-! ## The number -/

/-- The number that octets write in base 256, the most significant first. -/
def bigEndian (octets : List UInt8) : Nat := Nat.ofDigits 256 (octets.map UInt8.toNat).reverse

@[simp] theorem bigEndian_nil : bigEndian [] = 0 := rfl

theorem bigEndian_cons (octet : UInt8) (octets : List UInt8) :
    bigEndian (octet :: octets) = 2 ^ (8 * octets.length) * octet.toNat + bigEndian octets := by
  rw [bigEndian, List.map_cons, List.reverse_cons, Nat.ofDigits_append, Nat.ofDigits_singleton,
    List.length_reverse, List.length_map, Nat.pow_mul, Nat.add_comm]
  rfl

theorem bigEndian_lt (octets : List UInt8) : bigEndian octets < 2 ^ (8 * octets.length) := by
  induction octets with
  | nil => exact Nat.one_pos
  | cons octet octets ih =>
    have small : octet.toNat + 1 ≤ 2 ^ 8 := octet.toNat_lt
    calc bigEndian (octet :: octets)
      _ = 2 ^ (8 * octets.length) * octet.toNat + bigEndian octets := bigEndian_cons octet octets
      _ < 2 ^ (8 * octets.length) * (octet.toNat + 1) := Nat.add_lt_add_left ih _
      _ ≤ 2 ^ (8 * octets.length) * 2 ^ 8 := Nat.mul_le_mul_left _ small
      _ = 2 ^ (8 * (octet :: octets).length) := by rw [← Nat.pow_add, List.length_cons, Nat.mul_succ]

/-- The first octet alone decides on a bound that is a multiple of what the others can reach. -/
theorem bigEndian_cons_lt_iff (bound : Nat) :
    bigEndian (octet :: octets) < 2 ^ (8 * octets.length) * bound ↔ octet.toNat < bound := by
  have below := bigEndian_lt octets
  rw [bigEndian_cons, Nat.mul_comm _ bound, ← Nat.div_lt_iff_lt_mul (Nat.two_pow_pos _),
    Nat.mul_add_div (Nat.two_pow_pos _), Nat.div_eq_of_lt below, Nat.add_zero]

/-! ## The count by the number -/

theorem octetZeros_lt (nonzero : octet ≠ 0) : octetZeros octet < 8 := by
  rw [octetZeros, if_neg nonzero]
  omega

theorem le_leadingZeros_iff :
    bits ≤ leadingZeros octets ↔
      bits ≤ 8 * octets.length ∧ bigEndian octets < 2 ^ (8 * octets.length - bits) := by
  -- An octet of zeros takes eight places and leaves the number as it is.
  induction octets generalizing bits with
  | nil => simp [leadingZeros]
  | cons octet octets ih =>
    have below := bigEndian_lt octets
    rw [leadingZeros, List.length_cons]
    by_cases zero : octet = 0
    · have same : bigEndian (octet :: octets) = bigEndian octets := by
        rw [bigEndian_cons, zero, UInt8.toNat_zero, Nat.mul_zero, Nat.zero_add]
      rw [if_pos zero, same, Nat.add_comm, ← Nat.sub_le_iff_le_add, ih]
      by_cases few : bits < 8
      · have enough : bigEndian octets < 2 ^ (8 * (octets.length + 1) - bits) :=
          Nat.lt_of_lt_of_le below (Nat.pow_le_pow_right Nat.two_pos (by omega))
        have spent : bits - 8 = 0 := by omega
        simp only [spent, Nat.zero_le, Nat.sub_zero, below, enough, and_self, and_true, true_iff]
        omega
      · have places : 8 * (octets.length + 1) - bits = 8 * octets.length - (bits - 8) := by omega
        rw [places]
        exact and_congr_left' (by omega)
    · rw [if_neg zero]
      by_cases few : bits < 8
      · have places : 8 * (octets.length + 1) - bits = 8 * octets.length + (8 - bits) := by omega
        rw [places, Nat.pow_add, bigEndian_cons_lt_iff, le_octetZeros_iff zero few]
        exact (and_iff_right (by omega)).symm
      · -- The first octet is not zero, so the number fills more places than are left.
        have reaches : ¬ bigEndian (octet :: octets) < 2 ^ (8 * octets.length) * 1 := by
          rw [bigEndian_cons_lt_iff, Nat.lt_one_iff]
          exact fun isZero => zero (UInt8.toNat_inj.mp isZero)
        refine iff_of_false ?_ fun both => reaches ?_
        · have short := octetZeros_lt zero
          omega
        · rw [Nat.mul_one]
          exact Nat.lt_of_lt_of_le both.2 (Nat.pow_le_pow_right Nat.two_pos (by omega))

theorem leadingZeros_le (octets : List UInt8) : leadingZeros octets ≤ 8 * octets.length :=
  (le_leadingZeros_iff.mp (Nat.le_refl _)).1

/-! ## The row of bits -/

/-- So many bits of a number, the most significant first. -/
def expansion (width n : Nat) : List Bool :=
  (List.range width).map fun place => n.testBit (width - 1 - place)

/-- The bits of an octet, the most significant first. -/
def octetBits (octet : UInt8) : List Bool := expansion 8 octet.toNat

/-- The zeros at the front of a row of bits. -/
def zerosAhead (row : List Bool) : Nat := (row.takeWhile fun bit => bit == false).length

theorem expansion_add {high low : Nat} (fits : low < 2 ^ width) (ahead : Nat) :
    expansion (ahead + width) (2 ^ width * high + low) =
      expansion ahead high ++ expansion width low := by
  rw [expansion, List.range_add, List.map_append, List.map_map]
  congr 1
  · apply List.map_congr_left
    intro place among
    have within := List.mem_range.mp among
    rw [Nat.testBit_two_pow_mul_add _ fits, if_neg (by omega)]
    congr 1
    omega
  · apply List.map_congr_left
    intro place among
    have within := List.mem_range.mp among
    rw [Function.comp_apply, Nat.testBit_two_pow_mul_add _ fits, if_pos (by omega)]
    congr 1
    omega

/-- The row of all bits of some octets is that of the number they write. -/
theorem flatMap_octetBits (octets : List UInt8) :
    octets.flatMap octetBits = expansion (8 * octets.length) (bigEndian octets) := by
  induction octets with
  | nil => rfl
  | cons octet octets ih =>
    rw [List.flatMap_cons, ih, bigEndian_cons, List.length_cons, Nat.mul_succ, Nat.add_comm,
      expansion_add (bigEndian_lt octets)]
    rfl

theorem le_length_takeWhile_iff {α : Type} {p : α → Bool} {list : List α} :
    n ≤ (list.takeWhile p).length ↔ n ≤ list.length ∧ ∀ a ∈ list.take n, p a = true := by
  induction list generalizing n with
  | nil => simp
  | cons a list ih =>
    cases n with
    | zero => simp
    | succ n => cases holds : p a <;> simp [holds, ih]

/-- A row begins with so many zeros if all that its number can be written with fewer places. -/
theorem le_zerosAhead_expansion_iff (fits : n < 2 ^ width) :
    bits ≤ zerosAhead (expansion width n) ↔ bits ≤ width ∧ n < 2 ^ (width - bits) := by
  have length : (expansion width n).length = width := by rw [expansion, List.length_map, List.length_range]
  rw [zerosAhead, le_length_takeWhile_iff, length]
  refine and_congr_right fun within => ?_
  have front : (expansion width n).take bits =
      (List.range bits).map fun place => n.testBit (width - 1 - place) := by
    rw [expansion, ← List.map_take, List.take_range, Nat.min_eq_left within]
  rw [front]
  simp only [List.mem_map, List.mem_range, forall_exists_index, and_imp, forall_apply_eq_imp_iff₂,
    beq_iff_eq]
  constructor
  · intro zeros
    apply Nat.lt_pow_two_of_testBit
    intro place high
    by_cases inside : place < width
    · have same : width - 1 - (width - 1 - place) = place := by omega
      have zero := zeros (width - 1 - place) (by omega)
      rwa [same] at zero
    · exact Nat.testBit_lt_two_pow
        (Nat.lt_of_lt_of_le fits (Nat.pow_le_pow_right Nat.two_pos (Nat.not_lt.mp inside)))
  · intro below place ahead
    exact Nat.testBit_lt_two_pow
      (Nat.lt_of_lt_of_le below (Nat.pow_le_pow_right Nat.two_pos (by omega)))

theorem leadingZeros_eq_zerosAhead (octets : List UInt8) :
    leadingZeros octets = zerosAhead (octets.flatMap octetBits) := by
  apply eq_of_forall_le_iff
  intro bits
  rw [le_leadingZeros_iff, flatMap_octetBits, le_zerosAhead_expansion_iff (bigEndian_lt octets)]

/-! ## The test -/

/-- The test looks at no octet behind the one that its last bit stands in. -/
theorem hasLeadingZeros_congr {other : List UInt8}
    (same : other.take (bits / 8 + 1) = octets.take (bits / 8 + 1)) :
    hasLeadingZeros other bits = hasLeadingZeros octets bits := by
  have looks (list : List UInt8) :
      hasLeadingZeros (list.take (bits / 8 + 1)) bits = hasLeadingZeros list bits := by
    have long : bits / 8 ≤ (list.take (bits / 8 + 1)).length ↔ bits / 8 ≤ list.length := by
      rw [List.length_take]
      omega
    have front : (list.take (bits / 8 + 1)).take (bits / 8) = list.take (bits / 8) := by
      rw [List.take_take, Nat.min_eq_left (Nat.le_succ _)]
    have last : (list.take (bits / 8 + 1))[bits / 8]? = list[bits / 8]? :=
      List.getElem?_take_of_lt (Nat.lt_succ_self _)
    simp only [hasLeadingZeros, decide_eq_decide.mpr long, front, last]
  rw [← looks other, same, looks octets]

/-- **Two ways to see leading zeros, and arithmetic.**  The test passes exactly if the count is large
enough, and that is so exactly if there are as many bits and the number that they write is below the power
of two that leaves them all zero.  The count is the length of the run of zeros that all the bits begin
with, and fits in 32 bits as long as the number of bits does.  So octets that hold too few bits never
pass, octets behind the last bit asked for do not matter, and what passes for some bits passes for
fewer. -/
theorem leadingZeros_decides (octets : List UInt8) (bits : Nat) :
    (hasLeadingZeros octets bits = true ↔ bits ≤ leadingZeros octets) ∧
    (bits ≤ leadingZeros octets ↔
      bits ≤ 8 * octets.length ∧ bigEndian octets < 2 ^ (8 * octets.length - bits)) ∧
    leadingZeros octets =
      ((octets.flatMap octetBits).takeWhile fun bit => bit == false).length ∧
    (octets.length < 2 ^ 29 → leadingZeros octets < 2 ^ 32) ∧
    (8 * octets.length < bits → hasLeadingZeros octets bits = false) ∧
    (∀ other : List UInt8, other.take (bits / 8 + 1) = octets.take (bits / 8 + 1) →
      hasLeadingZeros other bits = hasLeadingZeros octets bits) ∧
    ∀ fewer ≤ bits, hasLeadingZeros octets bits = true → hasLeadingZeros octets fewer = true := by
  have most := leadingZeros_le octets
  refine ⟨hasLeadingZeros_iff, le_leadingZeros_iff, leadingZeros_eq_zerosAhead octets, ?_, ?_,
    fun _ => hasLeadingZeros_congr, ?_⟩
  · omega
  · intro short
    rw [← Bool.not_eq_true, hasLeadingZeros_iff]
    omega
  · intro fewer le passes
    rw [hasLeadingZeros_iff] at passes ⊢
    exact Nat.le_trans le passes

/-- Twelve zeros stand before the first one of these bits, which are seen without the last octet. -/
theorem leadingZeros_decides_twelve :
    ([0, 15, 255] : List UInt8).length < 2 ^ 29 ∧ leadingZeros [0, 15, 255] < 2 ^ 32 ∧
      hasLeadingZeros [0, 15, 255] 12 = true ∧ hasLeadingZeros [0, 15] 12 = true ∧
      hasLeadingZeros [0, 15, 255] 11 = true ∧ hasLeadingZeros [0, 0] 17 = false := by
  obtain ⟨test, number, -, fits, -, front, antitone⟩ := leadingZeros_decides [0, 15, 255] 12
  have passes := test.mpr (number.mpr (by decide))
  have short : ([0, 15, 255] : List UInt8).length < 2 ^ 29 := by decide
  exact ⟨short, fits short, passes, (front [0, 15] rfl).trans passes, antitone 11 (by decide) passes,
    (leadingZeros_decides [0, 0] 17).2.2.2.2.1 (by decide)⟩

end Hashgate

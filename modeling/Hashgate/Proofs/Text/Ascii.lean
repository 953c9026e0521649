import Mathlib.Data.Nat.Digits.Defs
import Hashgate.Calendar
import Hashgate.Proofs.Base64
import Hashgate.Proofs.Text.Decimal
import Hashgate.Proofs.Text.Fields
import Hashgate.Proofs.Text.Utf8
import Hashgate.Text.Hex

/-! # Text of one octet per character

All that a gate writes of its own is ASCII: numbers, stamps, tokens and base64.  So the octets of such a
text are as many as its characters, and these can be counted.

* `IsAscii` — text of one octet per character.
* `length_encode_of_isAscii` — how many octets it takes.
* `isAscii_ofNat`, `isAscii_ofInt`, `isAscii_base64` — who writes such text.
* `length_ofNat_le`, `length_hex`, `length_base64`, `length_join` — how much of it.
-/

namespace Hashgate

def IsAscii (text : List Char) : Prop := ∀ c ∈ text, c.toNat < 0x80

instance (text : List Char) : Decidable (IsAscii text) := List.decidableBAll _ text

theorem IsAscii.append {text more : List Char} (ascii : IsAscii text) (others : IsAscii more) :
    IsAscii (text ++ more) := List.forall_mem_append.mpr ⟨ascii, others⟩

theorem Utf8.length_encode_of_isAscii {text : List Char} (ascii : IsAscii text) :
    (Utf8.encode text).length = text.length := by
  induction text with
  | nil => rfl
  | cons c rest ih =>
    obtain ⟨first, others⟩ := List.forall_mem_cons.mp ascii
    rw [Utf8.encode_cons_ascii first, List.length_cons, List.length_cons, ih others]

/-! ## Digits -/

theorem digitChar_ascii : ∀ n < 16, (Nat.digitChar n).toNat < 0x80 := by decide

theorem isAscii_twoDigits (n : Nat) : IsAscii (twoDigits n) := by
  have digit (m : Nat) : (Nat.digitChar (m % 10)).toNat < 0x80 := digitChar_ascii _ (by omega)
  simp [IsAscii, twoDigits, digit]

theorem exists_digit_of_mem_hex {octets : List UInt8} {c : Char} (member : c ∈ Hex.encode octets) :
    ∃ n < 16, c = Nat.digitChar n := by
  obtain ⟨octet, -, among⟩ := List.mem_flatMap.mp member
  have small := octet.toNat_lt
  simp only [Hex.ofOctet, List.mem_cons, List.not_mem_nil, or_false] at among
  obtain same | same := among
  · exact ⟨_, by omega, same⟩
  · exact ⟨_, by omega, same⟩

theorem length_hex (octets : List UInt8) : (Hex.encode octets).length = 2 * octets.length := by
  induction octets with
  | nil => rfl
  | cons octet rest ih =>
    rw [Hex.encode, List.flatMap_cons, List.length_append, List.length_cons]
    change 2 + (Hex.encode rest).length = _
    omega

theorem Decimal.IsDigits.isAscii {digits : List Char} (isDigits : Decimal.IsDigits digits) :
    IsAscii digits := by
  intro c member
  have bounds := Char.isDigit_iff_toNat.mp (isDigits.2 c member)
  exact Nat.lt_of_le_of_lt bounds.2 (by decide)

theorem Decimal.SpellsNat.isAscii {text : List Char} {n : Nat} (spells : Decimal.SpellsNat text n) :
    IsAscii text := by
  cases spells with
  | plain isDigits => exact isDigits.isAscii
  | plus isDigits => exact List.forall_mem_cons.mpr ⟨by decide, isDigits.isAscii⟩

theorem Decimal.SpellsInt.isAscii {text : List Char} {z : Int} (spells : Decimal.SpellsInt text z) :
    IsAscii text := by
  cases spells with
  | plain isDigits => exact isDigits.isAscii
  | plus isDigits => exact List.forall_mem_cons.mpr ⟨by decide, isDigits.isAscii⟩
  | minus isDigits => exact List.forall_mem_cons.mpr ⟨by decide, isDigits.isAscii⟩

theorem isAscii_ofNat (n : Nat) : IsAscii (Decimal.ofNat n) := (Decimal.isDigits_ofNat n).isAscii

theorem length_ofNat_le {n width : Nat} (positive : 0 < width) (small : n < 10 ^ width) :
    (Decimal.ofNat n).length ≤ width := Nat.toDigits_length 10 n width positive small

theorem isAscii_ofInt (n : Int) : IsAscii (Decimal.ofInt n) := by
  unfold Decimal.ofInt
  split
  · exact List.forall_mem_cons.mpr ⟨by decide, isAscii_ofNat _⟩
  · exact isAscii_ofNat _

theorem length_ofInt_le {n : Int} {width : Nat} (positive : 0 < width) (small : n.natAbs < 10 ^ width) :
    (Decimal.ofInt n).length ≤ width + 1 := by
  have digits := length_ofNat_le positive small
  unfold Decimal.ofInt
  split
  · exact Nat.succ_le_succ digits
  · exact Nat.le_succ_of_le digits

/-! ## Base64 -/

theorem length_base64 (octets : List UInt8) :
    (Base64.encode octets).length = 4 * ((octets.length + 2) / 3) := by
  induction octets using Base64.encode.induct with
  | case1 => rfl
  | case2 x => simp [Base64.encode]
  | case3 x y => simp [Base64.encode]
  | case4 x y z rest ih =>
    simp only [Base64.encode, List.length_cons, ih]
    omega

theorem isAscii_base64 (octets : List UInt8) : IsAscii (Base64.encode octets) := by
  unfold IsAscii
  induction Base64.grouped octets with
  | none => simp [Base64.encode]
  | two ha hb spare =>
    simp [Base64.encode_join_two ha hb spare, Base64.symbol_ascii _ ha, Base64.symbol_ascii _ hb]
  | three ha hb hc spare =>
    simp [Base64.encode_join_three ha hb hc spare, Base64.symbol_ascii _ ha,
      Base64.symbol_ascii _ hb, Base64.symbol_ascii _ hc]
  | four ha hb hc hd _ ih =>
    simpa [Base64.encode_join_append ha hb hc hd, Base64.symbol_ascii _ ha,
      Base64.symbol_ascii _ hb, Base64.symbol_ascii _ hc, Base64.symbol_ascii _ hd] using ih

/-! ## Fields -/

theorem isAscii_join {fields : List (List Char)} (ascii : ∀ field ∈ fields, IsAscii field) :
    IsAscii (Fields.join ':' fields) := by
  induction fields with
  | nil => exact List.forall_mem_nil _
  | cons field rest ih =>
    obtain ⟨first, others⟩ := List.forall_mem_cons.mp ascii
    cases rest with
    | nil => exact first
    | cons next rest =>
      rw [Fields.join_cons (by simp)]
      exact first.append (List.forall_mem_cons.mpr ⟨by decide, ih others⟩)

/-- The fields of a text are parts of it. -/
theorem IsAscii.of_mem_join {separator : Char} {field : List Char} {fields : List (List Char)}
    (ascii : IsAscii (Fields.join separator fields)) (member : field ∈ fields) : IsAscii field := by
  induction fields with
  | nil => cases member
  | cons first rest ih =>
    cases rest with
    | nil =>
      rw [List.mem_singleton] at member
      rwa [member]
    | cons next rest =>
      rw [Fields.join_cons (List.cons_ne_nil next rest)] at ascii
      obtain ⟨inFirst, others⟩ := List.forall_mem_append.mp ascii
      obtain rfl | later := List.mem_cons.mp member
      · exact inFirst
      · exact ih (List.forall_mem_cons.mp others).2 later

/-- There is one separator fewer than there are fields. -/
theorem length_join (separator : Char) (field : List Char) (rest : List (List Char)) :
    (Fields.join separator (field :: rest)).length =
      ((field :: rest).map List.length).sum + rest.length := by
  induction rest generalizing field with
  | nil => simp [Fields.join]
  | cons next rest ih =>
    rw [Fields.join_cons (by simp), List.length_append, List.length_cons, ih]
    simp only [List.map_cons, List.sum_cons, List.length_cons]
    omega

end Hashgate

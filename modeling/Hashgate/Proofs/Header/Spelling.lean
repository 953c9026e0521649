import Hashgate.Proofs.Header.RoundTrip
import Hashgate.Proofs.Text.Canonical

/-! # The spellings of a header

A header has many texts and one canonical text, which is what writing makes of it.  Signs, spare zeros and
the extension are all that its other texts can have of their own: two texts are read as one header if their
texts agree and their numbers are the same, however these are spelled.

* `Parts` — the seven fields of a text that is read, the last of them decoded.
* `Parts.Spells` — what the parts of a text say about its header.
* `render_eq_iff`, `Parts.Spells.eq_iff` — which text is canonical, and which texts have one header.
* `spelling_decides` — both, for all texts that are read.
-/

namespace Hashgate.Header

open Decimal (SpellsInt SpellsNat NoSpareZero IsShortest unsigned)

variable {text : String} {h : Header}

/-! ## Parts -/

/-- The seven fields of a text, with the digits that the last of them encodes. -/
structure Parts where
  version : List Char
  bits : List Char
  date : List Char
  resource : List Char
  extension : List Char
  random : List Char
  digits : List Char

namespace Parts

variable {parts : Parts}

def Make (parts : Parts) (text : String) : Prop :=
  Divided text parts.version parts.bits parts.date parts.resource parts.extension parts.random
    (Base64.encode (Utf8.encode parts.digits))

/-- What the parts of a text say about its header. -/
structure Spells (parts : Parts) (h : Header) : Prop where
  supported : h.version = 1
  version : SpellsInt parts.version 1
  bits : SpellsNat parts.bits h.bits.toNat
  date : h.date.toList = parts.date
  resource : h.resource.toList = parts.resource
  random : h.random.toList = parts.random
  counter : SpellsInt parts.digits h.counter.toInt

theorem exists_make (read : parse text = .ok h) : ∃ parts : Parts, parts.Make text := by
  obtain ⟨version, bits, extension, digits, divided, -⟩ := parse_eq_ok_iff.mp read
  exact ⟨⟨version, bits, h.date.toList, h.resource.toList, extension, h.random.toList, digits⟩,
    divided⟩

theorem Make.spells (made : parts.Make text) (read : parse text = .ok h) : parts.Spells h := by
  obtain ⟨version, bits, extension, digits, divided, supported, one, spells, -, counter⟩ :=
    parse_eq_ok_iff.mp read
  have same := made.split_eq.symm.trans divided.split_eq
  simp only [List.cons.injEq, and_true, Base64.encode_inj, Utf8.encode_inj] at same
  obtain ⟨versions, number, date, resource, -, random, digits⟩ := same
  exact {
    supported
    version := versions ▸ one
    bits := number ▸ spells
    date := date.symm
    resource := resource.symm
    random := random.symm
    counter := digits ▸ counter }

end Parts

/-! ## The canonical text -/

/-- A text is the canonical one if its fields are those that writing makes. -/
theorem render_eq_iff_fields {parts : Parts} (made : parts.Make text) (read : parse text = .ok h) :
    h.render = text ↔ parts.version = Decimal.ofNat 1 ∧ parts.bits = Decimal.ofNat h.bits.toNat ∧
      parts.extension = [] ∧ parts.digits = Decimal.ofInt h.counter.toInt := by
  have spells := made.spells read
  have written := divided_render (wellFormed_of_parse read).colonless
  have one : h.version.toNat = 1 := congrArg UInt8.toNat spells.supported
  rw [one, spells.date, spells.resource, spells.random] at written
  constructor
  · intro same
    rw [same] at written
    have fields := made.split_eq.symm.trans written.split_eq
    simp only [encodeCounter, List.cons.injEq, and_true, Base64.encode_inj, Utf8.encode_inj] at fields
    obtain ⟨version, bits, -, -, extension, -, digits⟩ := fields
    exact ⟨version, bits, extension, digits⟩
  · rintro ⟨version, bits, extension, digits⟩
    apply String.toList_inj.mp
    rw [written.joined, made.joined, version, bits, extension, digits]
    rfl

theorem render_eq_iff {parts : Parts} (made : parts.Make text) (read : parse text = .ok h) :
    h.render = text ↔ parts.version = ['1'] ∧ ('+' ∉ parts.bits ∧ NoSpareZero parts.bits) ∧
      parts.extension = [] ∧ IsShortest parts.digits := by
  have spells := made.spells read
  rw [render_eq_iff_fields made read, Decimal.eq_ofNat_iff spells.bits,
    Decimal.isShortest_iff spells.counter]
  rfl

/-! ## Texts of one header -/

theorem Parts.Spells.eq_iff {k : Header} {parts others : Parts} (spells : parts.Spells h)
    (otherSpells : others.Spells k) :
    h = k ↔ parts.date = others.date ∧ parts.resource = others.resource ∧
      parts.random = others.random ∧
      (∃ n, SpellsNat parts.bits n ∧ SpellsNat others.bits n) ∧
      ∃ z, SpellsInt parts.digits z ∧ SpellsInt others.digits z := by
  constructor
  · rintro rfl
    exact ⟨spells.date.symm.trans otherSpells.date, spells.resource.symm.trans otherSpells.resource,
      spells.random.symm.trans otherSpells.random, ⟨_, spells.bits, otherSpells.bits⟩,
      ⟨_, spells.counter, otherSpells.counter⟩⟩
  · rintro ⟨date, resource, random, ⟨n, number, otherNumber⟩, ⟨z, digits, otherDigits⟩⟩
    rw [← spells.date, ← otherSpells.date, String.toList_inj] at date
    rw [← spells.resource, ← otherSpells.resource, String.toList_inj] at resource
    rw [← spells.random, ← otherSpells.random, String.toList_inj] at random
    have bits : h.bits = k.bits := UInt32.toNat_inj.mp
      ((spells.bits.unique number).trans (otherSpells.bits.unique otherNumber).symm)
    have counter : h.counter = k.counter := Int64.toInt_inj.mp
      ((spells.counter.unique digits).trans (otherSpells.counter.unique otherDigits).symm)
    have version := spells.supported.trans otherSpells.supported.symm
    cases h
    cases k
    simp only at version bits date resource random counter
    rw [version, bits, date, resource, random, counter]

/-- **Writing undoes reading for canonical texts alone.**  A text that is read has seven parts.  It is the
text of its own header exactly if its version is the digit one, its bits have neither a plus sign nor a
spare zero, its extension is empty, and its counter is the shortest decimal of its value.  A second text
has the same header exactly if it agrees in the three texts and spells the same two numbers. -/
theorem spelling_decides (text : String) (h : Header) (read : parse text = .ok h) :
    (∃ parts : Parts, parts.Make text) ∧
    ∀ parts : Parts, parts.Make text →
      (h.render = text ↔ parts.version = ['1'] ∧ ('+' ∉ parts.bits ∧ NoSpareZero parts.bits) ∧
        parts.extension = [] ∧ IsShortest parts.digits) ∧
      (IsShortest parts.digits ↔ '+' ∉ parts.digits ∧ NoSpareZero (unsigned parts.digits) ∧
        parts.digits ≠ ['-', '0']) ∧
      ∀ (other : String) (k : Header) (others : Parts), parse other = .ok k → others.Make other →
        (h = k ↔ parts.date = others.date ∧ parts.resource = others.resource ∧
          parts.random = others.random ∧
          (∃ n, SpellsNat parts.bits n ∧ SpellsNat others.bits n) ∧
          ∃ z, SpellsInt parts.digits z ∧ SpellsInt others.digits z) := by
  refine ⟨Parts.exists_make read, fun parts made => ?_⟩
  have spells := made.spells read
  refine ⟨render_eq_iff made read, ?_, fun other k others readOther madeOther => ?_⟩
  · rw [Decimal.isShortest_iff spells.counter, Decimal.eq_ofInt_iff spells.counter]
  · exact spells.eq_iff (madeOther.spells readOther)

/-- Plus signs, zeros to spare, an extension and a minus before a zero make another text of the same
header. -/
theorem spelling_decides_ornate : ∃ h k,
    parse "+01:+010:2402291200:r:x:n:LTA=" = .ok h ∧ parse "1:10:2402291200:r::n:MA==" = .ok k ∧
      h = k ∧ k.render = "1:10:2402291200:r::n:MA==" ∧ h.render ≠ "+01:+010:2402291200:r:x:n:LTA=" := by
  have ornate : parse "+01:+010:2402291200:r:x:n:LTA=" = .ok ⟨1, 10, "2402291200", "r", "n", 0⟩ := rfl
  have plain : parse "1:10:2402291200:r::n:MA==" = .ok ⟨1, 10, "2402291200", "r", "n", 0⟩ := rfl
  let ornateParts : Parts :=
    ⟨['+', '0', '1'], ['+', '0', '1', '0'], "2402291200".toList, ['r'], ['x'], ['n'], ['-', '0']⟩
  let plainParts : Parts := ⟨['1'], ['1', '0'], "2402291200".toList, ['r'], [], ['n'], ['0']⟩
  have ornateMade : ornateParts.Make "+01:+010:2402291200:r:x:n:LTA=" := ⟨by decide, by decide⟩
  have plainMade : plainParts.Make "1:10:2402291200:r::n:MA==" := ⟨by decide, by decide⟩
  obtain ⟨canonical, -, one⟩ := (spelling_decides _ _ ornate).2 ornateParts ornateMade
  obtain ⟨plainCanonical, shortest, -⟩ := (spelling_decides _ _ plain).2 plainParts plainMade
  have ten : SpellsNat ornateParts.bits 10 := SpellsNat.plus (by decide)
  have plainTen : SpellsNat plainParts.bits 10 := SpellsNat.plain (by decide)
  have zero : SpellsInt ornateParts.digits 0 := SpellsInt.minus (by decide)
  have plainZero : SpellsInt plainParts.digits 0 := SpellsInt.plain (by decide)
  refine ⟨_, _, ornate, plain, ?_, ?_, ?_⟩
  · exact (one _ _ plainParts plain plainMade).mpr
      ⟨rfl, rfl, rfl, ⟨10, ten, plainTen⟩, ⟨0, zero, plainZero⟩⟩
  · exact plainCanonical.mpr ⟨rfl, ⟨by decide, by decide⟩, rfl,
      shortest.mpr ⟨by decide, by decide, by decide⟩⟩
  · intro same
    cases (canonical.mp same).1

end Hashgate.Header

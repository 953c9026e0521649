import Hashgate.Header.Basic
import Hashgate.Proofs.Base64
import Hashgate.Proofs.Calendar
import Hashgate.Proofs.Text.Decimal
import Hashgate.Proofs.Text.Fields

/-! # The grammar of headers

Which texts are headers, and which fault the others have, without mention of the readers.  Each field
has a grammar of its own, and each reader of a field one relation that says how the field can fare,
with a constructor for each class of fault.  A text is read field by field, so a later field matters
only when the earlier ones are faultless.

* `Divided` — the seven fields of a text.
* `VersionReading`, `BitsReading`, `DateReading`, `CounterReading` — how a field can fare.
* `parse_eq_ok_iff` — which header is read, if one is.
* `parse_decides` — each class of fault, and headers, by conditions on the fields alone.
-/

namespace Hashgate.Header

open Decimal (SpellsInt SpellsNat)

variable {text : String} {version bits date resource extension random counter : List Char}

/-! ## Fields -/

/-- The seven fields of a text, none of which holds a colon. -/
structure Divided (text : String)
    (version bits date resource extension random counter : List Char) : Prop where
  joined : text.toList = Fields.join ':' [version, bits, date, resource, extension, random, counter]
  colonless : ∀ field ∈ [version, bits, date, resource, extension, random, counter], ':' ∉ field

theorem Divided.split_eq
    (divided : Divided text version bits date resource extension random counter) :
    Fields.split ':' text.toList = [version, bits, date, resource, extension, random, counter] :=
  (Fields.split_eq_iff (List.cons_ne_nil _ _)).mpr ⟨divided.joined, divided.colonless⟩

/-- Six colons make seven fields. -/
theorem exists_divided (six : text.toList.count ':' = 6) :
    ∃ version bits date resource extension random counter,
      Divided text version bits date resource extension random counter := by
  have seven := Fields.length_split ':' text.toList
  rw [six] at seven
  match shape : Fields.split ':' text.toList, seven with
  | [version, bits, date, resource, extension, random, counter], _ =>
    obtain ⟨joined, colonless⟩ := (Fields.split_eq_iff (List.cons_ne_nil _ _)).mp shape
    exact ⟨version, bits, date, resource, extension, random, counter, joined, colonless⟩

/-! ## Single fields -/

inductive VersionReading (field : List Char) : Except Fault UInt8 → Prop
  | invalid {why : Decimal.Fault} : (∀ v : Int64, ¬ SpellsInt field v.toInt) →
      VersionReading field (.error (.invalidVersion why))
  | unsupported {v : Int64} : SpellsInt field v.toInt → v.toInt ≠ 1 →
      VersionReading field (.error (.unsupportedVersion v))
  | supported : SpellsInt field 1 → VersionReading field (.ok 1)

theorem readVersion_reading (field : List Char) : VersionReading field (readVersion field) := by
  cases read : Decimal.readInt64 field with
  | error why =>
    have faulty : readVersion field = .error (.invalidVersion why) := by rw [readVersion, read]
    rw [faulty]
    apply VersionReading.invalid
    intro v spells
    rw [(Decimal.readInt64_eq_ok_iff field).mpr spells] at read
    cases read
  | ok v =>
    have spells := (Decimal.readInt64_eq_ok_iff field).mp read
    by_cases one : v.toInt = 1
    · have supported : readVersion field = .ok 1 := by
        rw [readVersion, read]
        exact if_pos one
      rw [supported]
      exact .supported (one ▸ spells)
    · have unsupported : readVersion field = .error (.unsupportedVersion v) := by
        rw [readVersion, read]
        exact if_neg one
      rw [unsupported]
      exact .unsupported spells one

theorem readVersion_of_spells {field : List Char} (one : SpellsInt field 1) :
    readVersion field = .ok 1 := by
  have reading := readVersion_reading field
  generalize readVersion field = read at reading
  cases reading with
  | invalid spellsNone => exact absurd one (spellsNone 1)
  | unsupported spells other => exact absurd (spells.unique one) other
  | supported => rfl

theorem readVersion_of_spells_other {field : List Char} {v : Int64} (spells : SpellsInt field v.toInt)
    (other : v.toInt ≠ 1) : readVersion field = .error (.unsupportedVersion v) := by
  rw [readVersion, (Decimal.readInt64_eq_ok_iff field).mpr spells]
  exact if_neg other

inductive BitsReading (field : List Char) : Except Fault UInt32 → Prop
  | invalid {why : Decimal.Fault} : (∀ n : UInt32, ¬ SpellsNat field n.toNat) →
      BitsReading field (.error (.invalidBits why))
  | number {n : UInt32} : SpellsNat field n.toNat → BitsReading field (.ok n)

theorem readBits_reading (field : List Char) : BitsReading field (readBits field) := by
  unfold readBits
  cases read : Decimal.readUInt32 field with
  | error why =>
    apply BitsReading.invalid
    intro n spells
    rw [(Decimal.readUInt32_eq_ok_iff field).mpr spells] at read
    cases read
  | ok n => exact .number ((Decimal.readUInt32_eq_ok_iff field).mp read)

theorem readBits_of_spells {field : List Char} {n : UInt32} (spells : SpellsNat field n.toNat) :
    readBits field = .ok n := by
  rw [readBits, (Decimal.readUInt32_eq_ok_iff field).mpr spells]
  rfl

inductive DateReading (field : List Char) : Except Fault String → Prop
  | invalid : ¬ IsStamp field → DateReading field (.error (.invalidDate (String.ofList field)))
  | stamp : IsStamp field → DateReading field (.ok (String.ofList field))

theorem readDate_reading (field : List Char) : DateReading field (readDate field) := by
  unfold readDate
  have accepted := @isSome_ofStamp?_iff field
  cases read : Minute.ofStamp? field with
  | none =>
    rw [read] at accepted
    exact .invalid fun stamp => nomatch accepted.mpr stamp
  | some minute =>
    rw [read] at accepted
    exact .stamp (accepted.mp rfl)

theorem readDate_of_isStamp {field : List Char} (stamp : IsStamp field) :
    readDate field = .ok (String.ofList field) := by
  have reading := readDate_reading field
  generalize readDate field = read at reading
  cases reading with
  | invalid noStamp => exact absurd stamp noStamp
  | stamp => rfl

theorem readDate_of_not_isStamp {field : List Char} (noStamp : ¬ IsStamp field) :
    readDate field = .error (.invalidDate (String.ofList field)) := by
  have reading := readDate_reading field
  generalize readDate field = read at reading
  cases reading with
  | invalid => rfl
  | stamp stamp => exact absurd stamp noStamp

inductive CounterReading (field : List Char) : Except Fault Int64 → Prop
  | noEncoding {why : Base64.Fault} : (∀ octets, field ≠ Base64.encode octets) →
      CounterReading field (.error (.counterEncoding why))
  | noText {octets : List UInt8} {why : Utf8.Fault} : field = Base64.encode octets →
      (∀ digits, octets ≠ Utf8.encode digits) → CounterReading field (.error (.counterText why))
  | noNumber {digits : List Char} {why : Decimal.Fault} :
      field = Base64.encode (Utf8.encode digits) → (∀ k : Int64, ¬ SpellsInt digits k.toInt) →
      CounterReading field (.error (.counterNumber (String.ofList digits) why))
  | number {digits : List Char} {k : Int64} : field = Base64.encode (Utf8.encode digits) →
      SpellsInt digits k.toInt → CounterReading field (.ok k)

theorem readCounter_reading (field : List Char) : CounterReading field (readCounter field) := by
  cases decoded : Base64.decode (Utf8.encode field) with
  | error why =>
    have faulty : readCounter field = .error (.counterEncoding why) := by
      rw [readCounter, decoded]
      rfl
    rw [faulty]
    apply CounterReading.noEncoding
    intro octets equal
    rw [Base64.decode_eq_ok_iff.mpr (congrArg Utf8.encode equal)] at decoded
    cases decoded
  | ok octets =>
    have encoded := Utf8.encode_inj.mp (Base64.decode_eq_ok_iff.mp decoded)
    cases wellFormed : Utf8.decode octets with
    | error why =>
      have faulty : readCounter field = .error (.counterText why) := by
        simp only [readCounter, decoded, wellFormed, mapError_ok, mapError_error, bind, Except.bind]
      rw [faulty]
      apply CounterReading.noText encoded
      intro digits equal
      rw [Utf8.decode_eq_ok_iff.mpr equal] at wellFormed
      cases wellFormed
    | ok digits =>
      have reduced : readCounter field =
          (Decimal.readInt64 digits).mapError (.counterNumber (String.ofList digits)) := by
        simp only [readCounter, decoded, wellFormed, mapError_ok, bind, Except.bind]
      rw [Utf8.decode_eq_ok_iff.mp wellFormed] at encoded
      rw [reduced]
      cases read : Decimal.readInt64 digits with
      | error why =>
        apply CounterReading.noNumber encoded
        intro k spells
        rw [(Decimal.readInt64_eq_ok_iff digits).mpr spells] at read
        cases read
      | ok k => exact .number encoded ((Decimal.readInt64_eq_ok_iff digits).mp read)

theorem readCounter_encode {digits : List Char} {k : Int64} (spells : SpellsInt digits k.toInt) :
    readCounter (Base64.encode (Utf8.encode digits)) = .ok k := by
  rw [readCounter, Base64.decode_eq_ok_iff.mpr rfl]
  simp only [mapError_ok, bind, Except.bind, Utf8.decode_eq_ok_iff.mpr rfl,
    (Decimal.readInt64_eq_ok_iff digits).mpr spells]

/-! ## Whole texts -/

theorem Divided.parse_eq
    (divided : Divided text version bits date resource extension random counter) :
    parse text = (do
      let version ← readVersion version
      let bits ← readBits bits
      let date ← readDate date
      let counter ← readCounter counter
      return ⟨version, bits, date, String.ofList resource, String.ofList random, counter⟩) := by
  rw [parse, divided.split_eq]

/-- How a text in seven fields can fare.  A field is read only if those before it are faultless. -/
inductive Reading (version bits date resource random counter : List Char) :
    Except Fault Header → Prop
  | version {fault : Fault} : VersionReading version (.error fault) →
      Reading version bits date resource random counter (.error fault)
  | bits {fault : Fault} : SpellsInt version 1 → BitsReading bits (.error fault) →
      Reading version bits date resource random counter (.error fault)
  | date {n : UInt32} : SpellsInt version 1 → SpellsNat bits n.toNat → ¬ IsStamp date →
      Reading version bits date resource random counter (.error (.invalidDate (String.ofList date)))
  | counter {n : UInt32} {fault : Fault} : SpellsInt version 1 → SpellsNat bits n.toNat →
      IsStamp date → CounterReading counter (.error fault) →
      Reading version bits date resource random counter (.error fault)
  | header {n : UInt32} {k : Int64} : SpellsInt version 1 → SpellsNat bits n.toNat → IsStamp date →
      CounterReading counter (.ok k) →
      Reading version bits date resource random counter
        (.ok ⟨1, n, String.ofList date, String.ofList resource, String.ofList random, k⟩)

theorem Divided.parse_reading
    (divided : Divided text version bits date resource extension random counter) :
    Reading version bits date resource random counter (parse text) := by
  rw [divided.parse_eq]
  -- Field by field, a fault ends the reading, and a faultless field is out of the way.
  have versionReading := readVersion_reading version
  generalize readVersion version = version? at versionReading
  obtain spellsNone | ⟨spells, other⟩ | one := versionReading
  · exact .version (.invalid spellsNone)
  · exact .version (.unsupported spells other)
  have bitsReading := readBits_reading bits
  generalize readBits bits = bits? at bitsReading
  obtain spellsNone | spells := bitsReading
  · exact .bits one (.invalid spellsNone)
  have dateReading := readDate_reading date
  generalize readDate date = date? at dateReading
  obtain noStamp | stamp := dateReading
  · exact .date one spells noStamp
  have counterReading := readCounter_reading counter
  cases read : readCounter counter with
  | error fault => exact .counter one spells stamp (read ▸ counterReading)
  | ok k => exact .header one spells stamp (read ▸ counterReading)

theorem parse_eq_malformed_iff {shown : String} :
    parse text = .error (.malformed shown) ↔ shown = text ∧ text.toList.count ':' ≠ 6 := by
  by_cases six : text.toList.count ':' = 6
  · obtain ⟨_, _, _, _, _, _, _, divided⟩ := exists_divided six
    have reading := divided.parse_reading
    -- Six colons make seven fields, and no reader of a field calls the whole text malformed.
    simp only [six, ne_eq, not_true_eq_false, and_false, iff_false]
    intro malformed
    rw [malformed] at reading
    obtain reading | ⟨_, reading⟩ | _ | ⟨_, _, _, reading⟩ := reading <;> cases reading
  · have seven := Fields.length_split ':' text.toList
    have malformed : parse text = .error (.malformed text) := by
      unfold parse
      split
      · next shape =>
        rw [shape] at seven
        exact absurd (Nat.succ.inj seven.symm) six
      · rfl
    rw [malformed]
    simp [six, eq_comm]

/-- The header of a text has the spelled numbers for its numbers and the other fields as they are. -/
theorem parse_eq_ok_iff {h : Header} :
    parse text = .ok h ↔ ∃ version bits extension digits,
      Divided text version bits h.date.toList h.resource.toList extension h.random.toList
          (Base64.encode (Utf8.encode digits)) ∧
        h.version = 1 ∧ SpellsInt version 1 ∧ SpellsNat bits h.bits.toNat ∧ IsStamp h.date.toList ∧
        SpellsInt digits h.counter.toInt := by
  constructor
  · intro read
    have six : text.toList.count ':' = 6 := by
      apply Decidable.byContradiction
      intro uneven
      rw [parse_eq_malformed_iff.mpr ⟨rfl, uneven⟩] at read
      cases read
    obtain ⟨version, bits, date, resource, extension, random, counter, divided⟩ := exists_divided six
    have reading := divided.parse_reading
    rw [read] at reading
    obtain _ | _ | _ | _ | ⟨one, spells, stamp, _ | _ | _ | ⟨encoded, spellsCounter⟩⟩ := reading
    rw [encoded] at divided
    refine ⟨version, bits, extension, _, ?_, rfl, one, spells, ?_, spellsCounter⟩
    · simpa only [String.toList_ofList] using divided
    · simpa only [String.toList_ofList] using stamp
  · rintro ⟨version, bits, extension, digits, divided, isOne, one, spells, stamp, spellsCounter⟩
    rw [divided.parse_eq, readVersion_of_spells one, readBits_of_spells spells,
      readDate_of_isStamp stamp, readCounter_encode spellsCounter, ← isOne]
    simp only [bind, Except.bind, pure, Except.pure, String.ofList_toList]

/-- **Every text falls into one class.**  A text is malformed unless it has six colons, and the seven
fields of any other text decide between the other faults and a header.  Each condition lists what the
fields before the one at fault must be like, so the first fault in the order of the fields is the one
that counts. -/
theorem parse_decides (text : String) :
    (∀ shown, parse text = .error (.malformed shown) ↔ shown = text ∧ text.toList.count ':' ≠ 6) ∧
    (text.toList.count ':' = 6 → ∃ version bits date resource extension random counter,
      Divided text version bits date resource extension random counter) ∧
    ∀ version bits date resource extension random counter,
      Divided text version bits date resource extension random counter →
      ((∃ why, parse text = .error (.invalidVersion why)) ↔
        ¬ ∃ v : Int64, SpellsInt version v.toInt) ∧
      (∀ v : Int64, parse text = .error (.unsupportedVersion v) ↔
        SpellsInt version v.toInt ∧ v.toInt ≠ 1) ∧
      ((∃ why, parse text = .error (.invalidBits why)) ↔
        SpellsInt version 1 ∧ ¬ ∃ n : UInt32, SpellsNat bits n.toNat) ∧
      (∀ shown, parse text = .error (.invalidDate shown) ↔
        (SpellsInt version 1 ∧ ∃ n : UInt32, SpellsNat bits n.toNat) ∧
          shown = String.ofList date ∧ ¬ IsStamp date) ∧
      ((∃ why, parse text = .error (.counterEncoding why)) ↔
        (SpellsInt version 1 ∧ (∃ n : UInt32, SpellsNat bits n.toNat) ∧ IsStamp date) ∧
          ¬ ∃ octets, counter = Base64.encode octets) ∧
      ((∃ why, parse text = .error (.counterText why)) ∨
          (∃ digits why, parse text = .error (.counterNumber digits why)) ↔
        (SpellsInt version 1 ∧ (∃ n : UInt32, SpellsNat bits n.toNat) ∧ IsStamp date) ∧
          ∃ octets, counter = Base64.encode octets ∧
            ¬ ∃ digits, ∃ k : Int64, octets = Utf8.encode digits ∧ SpellsInt digits k.toInt) ∧
      (∀ h, parse text = .ok h ↔
        (SpellsInt version 1 ∧ IsStamp date) ∧ h.version = 1 ∧ SpellsNat bits h.bits.toNat ∧
          h.date = String.ofList date ∧ h.resource = String.ofList resource ∧
          h.random = String.ofList random ∧
          ∃ digits, counter = Base64.encode (Utf8.encode digits) ∧
            SpellsInt digits h.counter.toInt) := by
  refine ⟨fun shown => parse_eq_malformed_iff, exists_divided, ?_⟩
  intro version bits date resource extension random counter divided
  have reading := divided.parse_reading
  generalize parse text = read at reading
  -- What a field spells is unique, so in each case all conditions but one come out false.
  cases reading with
  | version reading =>
    cases reading with
    | invalid spellsNone =>
      have notOne : ¬ SpellsInt version 1 := spellsNone 1
      simp [spellsNone, notOne]
    | unsupported spells other =>
      have notOne : ¬ SpellsInt version 1 := fun one => other (spells.unique one)
      have only (w : Int64) : SpellsInt version w.toInt ↔ w = _ := spells.int64_iff
      simp [notOne, only, other, eq_comm]
  | bits one reading =>
    obtain @⟨why, spellsNone⟩ := reading
    have only (w : Int64) : SpellsInt version w.toInt ↔ w = 1 := one.int64_iff_eq_one
    simp [one, spellsNone, only]
  | date one spells noStamp =>
    have only (w : Int64) : SpellsInt version w.toInt ↔ w = 1 := one.int64_iff_eq_one
    simp [one, noStamp, only, spells.uint32_iff, eq_comm]
  | counter one spells stamp reading =>
    have only (w : Int64) : SpellsInt version w.toInt ↔ w = 1 := one.int64_iff_eq_one
    cases reading with
    | noEncoding unencoded => simp [one, stamp, unencoded, only, spells.uint32_iff]
    | noText encoded unreadable => simp [one, stamp, encoded, unreadable, only, spells.uint32_iff]
    | noNumber encoded spellsNone => simp [one, stamp, encoded, spellsNone, only, spells.uint32_iff]
  | header one spells stamp reading =>
    have only (w : Int64) : SpellsInt version w.toInt ↔ w = 1 := one.int64_iff_eq_one
    obtain _ | _ | _ | ⟨encoded, spellsCounter⟩ := reading
    refine ⟨?_, ?_, ?_, ?_, ?_, ?_, fun h => ?_⟩
    · simp [only]
    · simp [only]
    · simp [spells.uint32_iff]
    · simp [stamp]
    · simp [encoded]
    · simp [encoded, spellsCounter.int64_iff]
    · cases h
      simp [one, stamp, encoded, spells.uint32_iff, spellsCounter.int64_iff, eq_comm]

/-- The twenty-ninth of February stands in the years that are a multiple of four. -/
theorem parse_decides_leapDay :
    Divided "1:+10:2402291200:r:x:n:MA==" (Decimal.ofInt 1) ('+' :: Decimal.ofNat 10)
        "2402291200".toList ['r'] ['x'] ['n'] "MA==".toList ∧
      parse "1:+10:2402291200:r:x:n:MA==" = .ok ⟨1, 10, "2402291200", "r", "n", 0⟩ := by
  have divided : Divided "1:+10:2402291200:r:x:n:MA==" (Decimal.ofInt 1) ('+' :: Decimal.ofNat 10)
      "2402291200".toList ['r'] ['x'] ['n'] "MA==".toList := ⟨by decide, by decide⟩
  have one : SpellsInt (Decimal.ofInt 1) 1 := Decimal.spellsInt_ofInt 1
  have ten : SpellsNat ('+' :: Decimal.ofNat 10) 10 :=
    Decimal.value_ofNat 10 ▸ .plus (Decimal.isDigits_ofNat 10)
  have zero : SpellsInt (Decimal.ofInt 0) 0 := Decimal.spellsInt_ofInt 0
  have stamp : IsStamp "2402291200".toList := ⟨24, 2, 29, 12, 0, by decide, by decide⟩
  obtain ⟨_, _, decided⟩ := parse_decides "1:+10:2402291200:r:x:n:MA=="
  obtain ⟨_, _, _, _, _, _, accepted⟩ := decided _ _ _ _ _ _ _ divided
  exact ⟨divided, (accepted _).mpr ⟨⟨one, stamp⟩, rfl, ten, rfl, rfl, rfl, _, by decide, zero⟩⟩

end Hashgate.Header

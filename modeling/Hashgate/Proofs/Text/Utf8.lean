import Hashgate.Proofs.Reading
import Hashgate.Text.Utf8

/-! # Characters and their octets

The reader of octets and the writer of characters are two descriptions of one encoding.  The link
between them is `Reader.Reads`: which octets take the reader from one place to a whole character.
From between two characters these are exactly the octets that are written for the character, so the
strict reader accepts what was written and nothing else.

* `tail` — the octets after the first one.
* `reads_within_iff`, `reads_start_iff` — which octets make a character.
* `decode_eq_ok_iff` — the strict reader accepts exactly what is written.
-/

namespace Hashgate.Utf8

/-! ## Octets by number -/

theorem octet_le_iff {a b : UInt8} : a ≤ b ↔ a.toNat ≤ b.toNat := UInt8.le_iff_toNat_le

theorem toNat_octet {n : Nat} (small : n < 256) : (UInt8.ofNat n).toNat = n :=
  UInt8.toNat_ofNat_of_lt' small

theorem toNat_char {n : Nat} (valid : n.isValidChar) : (Char.ofNat n).toNat = n := by
  rw [Char.ofNat, dif_pos valid]
  rfl

/-- A number without its last groups of six bits. -/
def front : (groups : Nat) → (number : Nat) → Nat
  | 0, number => number
  | groups + 1, number => front groups number / 64

@[simp] theorem front_zero (number : Nat) : front 0 number = number := rfl

theorem front_succ (groups number : Nat) : front (groups + 1) number = front groups number / 64 := rfl

theorem front_one (number : Nat) : front 1 number = number / 64 := rfl

theorem front_two (number : Nat) : front 2 number = number / 4096 := Nat.div_div_eq_div_mul _ 64 64

theorem front_three (number : Nat) : front 3 number = number / 262144 := by
  rw [front_succ, front_two]
  exact Nat.div_div_eq_div_mul _ 4096 64

/-- The octets of a character after its first one: six bits each, the last `owed` of them. -/
def tail : (owed : Nat) → (number : Nat) → List UInt8
  | 0, _ => []
  | owed + 1, number => UInt8.ofNat (front owed number % 64 + 0x80) :: tail owed number

theorem tail_succ (owed number : Nat) :
    tail (owed + 1) number = UInt8.ofNat (front owed number % 64 + 0x80) :: tail owed number := rfl

theorem lead_eq (b : UInt8) :
    Reader.lead b =
      if b.toNat < 0x80 then .complete (Char.ofNat b.toNat)
      else if b.toNat < 0xC2 then .refuse
      else if b.toNat < 0xE0 then .advance (.within 1 1 (b.toNat % 32) 0x80 0xBF)
      else if b.toNat = 0xE0 then .advance (.within 2 1 0 0xA0 0xBF)
      else if b.toNat = 0xED then .advance (.within 2 1 13 0x80 0x9F)
      else if b.toNat < 0xF0 then .advance (.within 2 1 (b.toNat % 16) 0x80 0xBF)
      else if b.toNat = 0xF0 then .advance (.within 3 1 0 0x90 0xBF)
      else if b.toNat < 0xF4 then .advance (.within 3 1 (b.toNat % 8) 0x80 0xBF)
      else if b.toNat = 0xF4 then .advance (.within 3 1 4 0x80 0x8F)
      else .refuse := by
  simp only [Reader.lead, UInt8.lt_iff_toNat_lt, ← UInt8.toNat_inj]
  rfl

/-! ## Reading one character -/

/-- The octets that take a reader to the end of a character. -/
inductive Reader.Reads : Reader → List UInt8 → Char → Prop
  | last {reader : Reader} {b : UInt8} {c : Char} :
      reader.step b = .complete c → Reads reader [b] c
  | more {reader next : Reader} {b : UInt8} {octets : List UInt8} {c : Char} :
      reader.step b = .advance next → Reads next octets c → Reads reader (b :: octets) c

theorem step_within_last {seen bits : Nat} {low high b : UInt8} :
    Reader.step (.within 1 seen bits low high) b =
      if low.toNat ≤ b.toNat ∧ b.toNat ≤ high.toNat then
        .complete (Char.ofNat (bits * 64 + b.toNat % 64))
      else .refuse := by
  simp [Reader.step, octet_le_iff]

theorem step_within_more {owed seen bits : Nat} {low high b : UInt8} :
    Reader.step (.within (owed + 2) seen bits low high) b =
      if low.toNat ≤ b.toNat ∧ b.toNat ≤ high.toNat then
        .advance (.within (owed + 1) (seen + 1) (bits * 64 + b.toNat % 64) 0x80 0xBF)
      else .refuse := by
  simp [Reader.step, octet_le_iff]

/-- An octet of a tail is its six bits and a mark. -/
theorem octet_of_tail {b : UInt8} {bits : Nat} (lower : 0x80 ≤ b.toNat) (upper : b.toNat ≤ 0xBF)
    (same : bits % 64 = b.toNat % 64) : UInt8.ofNat (bits % 64 + 0x80) = b := by
  apply UInt8.toNat_inj.mp
  rw [toNat_octet (by omega)]
  omega

/-- Inside a character, the octets that are owed are the tail of a number that continues the bits
read so far. -/
theorem reads_within_iff {owed seen bits : Nat} {low high : UInt8} {octets : List UInt8} {c : Char}
    (lower : 0x80 ≤ low.toNat) (upper : high.toNat ≤ 0xBF) :
    Reader.Reads (.within (owed + 1) seen bits low high) octets c ↔
      ∃ number, front (owed + 1) number = bits ∧ octets = tail (owed + 1) number ∧
        low.toNat ≤ front owed number % 64 + 0x80 ∧ front owed number % 64 + 0x80 ≤ high.toNat ∧
        c = Char.ofNat number := by
  -- The induction is on the octets that are owed, for all ranges: only the next one has a range that
  -- may be narrower, and with each of them the front of the number has one group less to come.
  induction owed generalizing seen bits low high octets with
  | zero =>
    simp only [Nat.zero_add, front_one, front_zero]
    constructor
    · intro reads
      cases reads with
      | @last _ b _ completes =>
        rw [step_within_last] at completes
        split at completes
        · next range =>
          cases completes
          have octet : UInt8.ofNat ((bits * 64 + b.toNat % 64) % 64 + 0x80) = b :=
            octet_of_tail (by omega) (by omega) (by omega)
          refine ⟨bits * 64 + b.toNat % 64, by omega, ?_, by omega, by omega, rfl⟩
          rw [tail, tail, front_zero, octet]
        · cases completes
      | more advances _ =>
        rw [step_within_last] at advances
        split at advances <;> cases advances
    · rintro ⟨number, rfl, rfl, above, below, rfl⟩
      apply Reader.Reads.last
      rw [step_within_last, front_zero, toNat_octet (by omega), if_pos ⟨above, below⟩]
      congr 2
      omega
  | succ owed ih =>
    constructor
    · intro reads
      cases reads with
      | last completes =>
        rw [step_within_more] at completes
        split at completes <;> cases completes
      | @more _ _ b _ _ advances rest =>
        rw [step_within_more] at advances
        split at advances
        · next range =>
          cases advances
          obtain ⟨number, bitsEqual, rfl, -, -, rfl⟩ := (ih (by decide) (by decide)).mp rest
          have six : front (owed + 1) number % 64 = b.toNat % 64 := by omega
          refine ⟨number, ?_, ?_, by omega, by omega, rfl⟩
          · rw [front_succ, bitsEqual]
            omega
          · have octet : UInt8.ofNat (front (owed + 1) number % 64 + 0x80) = b :=
              octet_of_tail (by omega) (by omega) six
            rw [tail_succ (owed + 1), octet]
        · cases advances
    · rintro ⟨number, rfl, rfl, above, below, rfl⟩
      have continues : front (owed + 1 + 1) number * 64 + front (owed + 1) number % 64 =
          front (owed + 1) number := by
        rw [front_succ (owed + 1)]
        omega
      refine @Reader.Reads.more _ (.within (owed + 1) (seen + 1) (front (owed + 1) number) 0x80 0xBF)
        _ _ _ ?_ ?_
      · rw [step_within_more, toNat_octet (by omega), if_pos ⟨above, below⟩]
        have marked :
            (front (owed + 1) number % 64 + 0x80) % 64 = front (owed + 1) number % 64 := by omega
        rw [marked, continues]
      · exact (ih (by decide) (by decide)).mpr ⟨number, rfl, rfl, by simp, by simp; omega, rfl⟩

theorem reads_within_one_iff {seen bits : Nat} {low high : UInt8} {octets : List UInt8} {c : Char}
    (lower : 0x80 ≤ low.toNat) (upper : high.toNat ≤ 0xBF) :
    Reader.Reads (.within 1 seen bits low high) octets c ↔
      ∃ number, number / 64 = bits ∧ octets = tail 1 number ∧ low.toNat ≤ number % 64 + 0x80 ∧
        number % 64 + 0x80 ≤ high.toNat ∧ c = Char.ofNat number := by
  have reads := @reads_within_iff 0 seen bits low high octets c lower upper
  simpa only [Nat.reduceAdd, front_one, front_zero] using reads

theorem reads_within_two_iff {seen bits : Nat} {low high : UInt8} {octets : List UInt8} {c : Char}
    (lower : 0x80 ≤ low.toNat) (upper : high.toNat ≤ 0xBF) :
    Reader.Reads (.within 2 seen bits low high) octets c ↔
      ∃ number, number / 4096 = bits ∧ octets = tail 2 number ∧
        low.toNat ≤ number / 64 % 64 + 0x80 ∧ number / 64 % 64 + 0x80 ≤ high.toNat ∧
        c = Char.ofNat number := by
  have reads := @reads_within_iff 1 seen bits low high octets c lower upper
  simpa only [Nat.reduceAdd, front_two, front_one] using reads

theorem reads_within_three_iff {seen bits : Nat} {low high : UInt8} {octets : List UInt8} {c : Char}
    (lower : 0x80 ≤ low.toNat) (upper : high.toNat ≤ 0xBF) :
    Reader.Reads (.within 3 seen bits low high) octets c ↔
      ∃ number, number / 262144 = bits ∧ octets = tail 3 number ∧
        low.toNat ≤ number / 4096 % 64 + 0x80 ∧ number / 4096 % 64 + 0x80 ≤ high.toNat ∧
        c = Char.ofNat number := by
  have reads := @reads_within_iff 2 seen bits low high octets c lower upper
  simpa only [Nat.reduceAdd, front_three, front_two] using reads

/-! ## Writing one character -/

theorem encodeChar_eq (c : Char) :
    String.utf8EncodeChar c =
      if c.toNat ≤ 0x7F then [UInt8.ofNat c.toNat]
      else if c.toNat ≤ 0x7FF then UInt8.ofNat (c.toNat / 64 % 32 + 0xC0) :: tail 1 c.toNat
      else if c.toNat ≤ 0xFFFF then UInt8.ofNat (c.toNat / 4096 % 16 + 0xE0) :: tail 2 c.toNat
      else UInt8.ofNat (c.toNat / 262144 % 8 + 0xF0) :: tail 3 c.toNat := by
  simp [String.utf8EncodeChar, tail, front_one, front_two]

theorem encodeChar_one {b : UInt8} (small : b.toNat < 0x80) :
    String.utf8EncodeChar (Char.ofNat b.toNat) = [b] := by
  rw [encodeChar_eq, toNat_char (Or.inl (by omega)), if_pos (by omega), UInt8.ofNat_toNat]

theorem encodeChar_two {b : UInt8} {number : Nat} (lower : 0x80 ≤ number) (upper : number ≤ 0x7FF)
    (first : b.toNat = number / 64 + 0xC0) :
    String.utf8EncodeChar (Char.ofNat number) = b :: tail 1 number := by
  rw [encodeChar_eq, toNat_char (Or.inl (by omega)), if_neg (by omega), if_pos upper,
    show number / 64 % 32 + 0xC0 = b.toNat by omega, UInt8.ofNat_toNat]

theorem encodeChar_three {b : UInt8} {number : Nat} (lower : 0x800 ≤ number)
    (upper : number ≤ 0xFFFF) (valid : number.isValidChar) (first : b.toNat = number / 4096 + 0xE0) :
    String.utf8EncodeChar (Char.ofNat number) = b :: tail 2 number := by
  rw [encodeChar_eq, toNat_char valid, if_neg (by omega), if_neg (by omega), if_pos upper,
    show number / 4096 % 16 + 0xE0 = b.toNat by omega, UInt8.ofNat_toNat]

theorem encodeChar_four {b : UInt8} {number : Nat} (lower : 0x10000 ≤ number)
    (upper : number ≤ 0x10FFFF) (first : b.toNat = number / 262144 + 0xF0) :
    String.utf8EncodeChar (Char.ofNat number) = b :: tail 3 number := by
  rw [encodeChar_eq, toNat_char (Or.inr (by omega)), if_neg (by omega), if_neg (by omega),
    if_neg (by omega), show number / 262144 % 8 + 0xF0 = b.toNat by omega, UInt8.ofNat_toNat]

theorem eq_encodeChar_of_reads {octets : List UInt8} {c : Char}
    (reads : Reader.Reads .start octets c) : octets = String.utf8EncodeChar c := by
  cases reads with
  | @last _ b _ completes =>
    rw [Reader.step, lead_eq] at completes
    split at completes
    · next small =>
      cases completes
      exact (encodeChar_one small).symm
    · repeat (split at completes; · cases completes)
      cases completes
  | @more _ _ b rest _ advances reads =>
    -- One case for each range of first octets.  What the next octet may be keeps a number from being
    -- too small for its length, a surrogate, or out of range.
    rw [Reader.step, lead_eq] at advances
    split at advances
    · cases advances
    split at advances
    · cases advances
    split at advances
    · cases advances
      obtain ⟨number, bits, rfl, -, -, rfl⟩ := (reads_within_one_iff (by decide) (by decide)).mp reads
      exact (encodeChar_two (by omega) (by omega) (by omega)).symm
    split at advances
    · cases advances
      obtain ⟨number, bits, rfl, above, -, rfl⟩ := (reads_within_two_iff (by decide) (by decide)).mp reads
      change 0xA0 ≤ _ at above
      exact (encodeChar_three (by omega) (by omega) (Or.inl (by omega)) (by omega)).symm
    split at advances
    · cases advances
      obtain ⟨number, bits, rfl, -, below, rfl⟩ := (reads_within_two_iff (by decide) (by decide)).mp reads
      change _ ≤ 0x9F at below
      exact (encodeChar_three (by omega) (by omega) (Or.inl (by omega)) (by omega)).symm
    split at advances
    · cases advances
      obtain ⟨number, bits, rfl, -, -, rfl⟩ := (reads_within_two_iff (by decide) (by decide)).mp reads
      have valid : number < 0xD800 ∨ 0xDFFF < number ∧ number < 0x110000 := by omega
      exact (encodeChar_three (by omega) (by omega) valid (by omega)).symm
    split at advances
    · cases advances
      obtain ⟨number, bits, rfl, above, -, rfl⟩ := (reads_within_three_iff (by decide) (by decide)).mp reads
      change 0x90 ≤ _ at above
      exact (encodeChar_four (by omega) (by omega) (by omega)).symm
    split at advances
    · cases advances
      obtain ⟨number, bits, rfl, -, -, rfl⟩ := (reads_within_three_iff (by decide) (by decide)).mp reads
      exact (encodeChar_four (by omega) (by omega) (by omega)).symm
    split at advances
    · cases advances
      obtain ⟨number, bits, rfl, -, below, rfl⟩ := (reads_within_three_iff (by decide) (by decide)).mp reads
      change _ ≤ 0x8F at below
      exact (encodeChar_four (by omega) (by omega) (by omega)).symm
    · cases advances

theorem reads_two {number : Nat} (lower : 0x80 ≤ number) (upper : number ≤ 0x7FF) :
    Reader.Reads .start (UInt8.ofNat (number / 64 % 32 + 0xC0) :: tail 1 number)
      (Char.ofNat number) := by
  have advances : Reader.lead (UInt8.ofNat (number / 64 % 32 + 0xC0)) =
      .advance (.within 1 1 (number / 64) 0x80 0xBF) := by
    rw [lead_eq, toNat_octet (by omega), if_neg (by omega), if_neg (by omega), if_pos (by omega),
      show (number / 64 % 32 + 0xC0) % 32 = number / 64 by omega]
  refine .more advances ((reads_within_one_iff (by decide) (by decide)).mpr
    ⟨number, rfl, rfl, ?_, ?_, rfl⟩)
  · change 0x80 ≤ _
    omega
  · change _ ≤ 0xBF
    omega

theorem reads_three {number : Nat} (lower : 0x800 ≤ number) (upper : number ≤ 0xFFFF)
    (valid : number < 0xD800 ∨ 0xDFFF < number) :
    Reader.Reads .start (UInt8.ofNat (number / 4096 % 16 + 0xE0) :: tail 2 number)
      (Char.ofNat number) := by
  have first : (UInt8.ofNat (number / 4096 % 16 + 0xE0)).toNat = number / 4096 + 0xE0 := by
    rw [toNat_octet (by omega)]
    omega
  by_cases lowest : number / 4096 = 0
  · have advances : Reader.lead (UInt8.ofNat (number / 4096 % 16 + 0xE0)) =
        .advance (.within 2 1 0 0xA0 0xBF) := by
      rw [lead_eq, first, if_neg (by omega), if_neg (by omega), if_neg (by omega),
        if_pos (by omega)]
    refine .more advances ((reads_within_two_iff (by decide) (by decide)).mpr
      ⟨number, lowest, rfl, ?_, ?_, rfl⟩)
    · change 0xA0 ≤ _
      omega
    · change _ ≤ 0xBF
      omega
  by_cases surrogates : number / 4096 = 13
  · have advances : Reader.lead (UInt8.ofNat (number / 4096 % 16 + 0xE0)) =
        .advance (.within 2 1 13 0x80 0x9F) := by
      rw [lead_eq, first, if_neg (by omega), if_neg (by omega), if_neg (by omega),
        if_neg (by omega), if_pos (by omega)]
    refine .more advances ((reads_within_two_iff (by decide) (by decide)).mpr
      ⟨number, surrogates, rfl, ?_, ?_, rfl⟩)
    · change 0x80 ≤ _
      omega
    · change _ ≤ 0x9F
      omega
  · have advances : Reader.lead (UInt8.ofNat (number / 4096 % 16 + 0xE0)) =
        .advance (.within 2 1 (number / 4096) 0x80 0xBF) := by
      rw [lead_eq, first, if_neg (by omega), if_neg (by omega), if_neg (by omega),
        if_neg (by omega), if_neg (by omega), if_pos (by omega),
        show (number / 4096 + 0xE0) % 16 = number / 4096 by omega]
    refine .more advances ((reads_within_two_iff (by decide) (by decide)).mpr
      ⟨number, rfl, rfl, ?_, ?_, rfl⟩)
    · change 0x80 ≤ _
      omega
    · change _ ≤ 0xBF
      omega

theorem reads_four {number : Nat} (lower : 0x10000 ≤ number) (upper : number ≤ 0x10FFFF) :
    Reader.Reads .start (UInt8.ofNat (number / 262144 % 8 + 0xF0) :: tail 3 number)
      (Char.ofNat number) := by
  have first : (UInt8.ofNat (number / 262144 % 8 + 0xF0)).toNat = number / 262144 + 0xF0 := by
    rw [toNat_octet (by omega)]
    omega
  by_cases lowest : number / 262144 = 0
  · have advances : Reader.lead (UInt8.ofNat (number / 262144 % 8 + 0xF0)) =
        .advance (.within 3 1 0 0x90 0xBF) := by
      rw [lead_eq, first, if_neg (by omega), if_neg (by omega), if_neg (by omega),
        if_neg (by omega), if_neg (by omega), if_neg (by omega), if_pos (by omega)]
    refine .more advances ((reads_within_three_iff (by decide) (by decide)).mpr
      ⟨number, lowest, rfl, ?_, ?_, rfl⟩)
    · change 0x90 ≤ _
      omega
    · change _ ≤ 0xBF
      omega
  by_cases highest : number / 262144 = 4
  · have advances : Reader.lead (UInt8.ofNat (number / 262144 % 8 + 0xF0)) =
        .advance (.within 3 1 4 0x80 0x8F) := by
      rw [lead_eq, first, if_neg (by omega), if_neg (by omega), if_neg (by omega),
        if_neg (by omega), if_neg (by omega), if_neg (by omega), if_neg (by omega),
        if_neg (by omega), if_pos (by omega)]
    refine .more advances ((reads_within_three_iff (by decide) (by decide)).mpr
      ⟨number, highest, rfl, ?_, ?_, rfl⟩)
    · change 0x80 ≤ _
      omega
    · change _ ≤ 0x8F
      omega
  · have advances : Reader.lead (UInt8.ofNat (number / 262144 % 8 + 0xF0)) =
        .advance (.within 3 1 (number / 262144) 0x80 0xBF) := by
      rw [lead_eq, first, if_neg (by omega), if_neg (by omega), if_neg (by omega),
        if_neg (by omega), if_neg (by omega), if_neg (by omega), if_neg (by omega),
        if_pos (by omega), show (number / 262144 + 0xF0) % 8 = number / 262144 by omega]
    refine .more advances ((reads_within_three_iff (by decide) (by decide)).mpr
      ⟨number, rfl, rfl, ?_, ?_, rfl⟩)
    · change 0x80 ≤ _
      omega
    · change _ ≤ 0xBF
      omega

theorem reads_encodeChar (c : Char) : Reader.Reads .start (String.utf8EncodeChar c) c := by
  have valid : c.toNat < 0xD800 ∨ 0xDFFF < c.toNat ∧ c.toNat < 0x110000 := c.valid
  have back : Char.ofNat c.toNat = c := Char.ofNat_toNat c
  rw [encodeChar_eq]
  split
  · apply Reader.Reads.last
    rw [Reader.step, lead_eq, toNat_octet (by omega), if_pos (by omega), back]
  split
  · simpa only [back] using @reads_two c.toNat (by omega) (by omega)
  split
  · simpa only [back] using @reads_three c.toNat (by omega) (by omega) (by omega)
  · simpa only [back] using @reads_four c.toNat (by omega) (by omega)

/-- The octets that make a character from its start are exactly those written for it. -/
theorem reads_start_iff {octets : List UInt8} {c : Char} :
    Reader.Reads .start octets c ↔ octets = String.utf8EncodeChar c :=
  ⟨eq_encodeChar_of_reads, fun equal => equal ▸ reads_encodeChar c⟩

/-! ## Well-formed octets -/

theorem readStrict_complete {reader : Reader} {b : UInt8} {c : Char}
    (completes : reader.step b = .complete c) (index : Nat) (rest : List UInt8) :
    reader.readStrict index (b :: rest) =
      (Reader.start.readStrict (index + 1) rest).map (c :: ·) := by
  cases reader <;> simp [Reader.readStrict, completes]

theorem readStrict_advance {reader next : Reader} {b : UInt8}
    (advances : reader.step b = .advance next) (index : Nat) (rest : List UInt8) :
    reader.readStrict index (b :: rest) = next.readStrict (index + 1) rest := by
  cases reader <;> simp [Reader.readStrict, advances]

theorem readStrict_refuse {reader : Reader} {b : UInt8} (refuses : reader.step b = .refuse)
    (index : Nat) (rest : List UInt8) :
    ∃ fault, reader.readStrict index (b :: rest) = .error fault := by
  cases reader <;> simp [Reader.readStrict, refuses]

/-- The strict reader takes one character after the other. -/
theorem readStrict_append {reader : Reader} {octets : List UInt8} {c : Char}
    (reads : Reader.Reads reader octets c) (index : Nat) (rest : List UInt8) :
    reader.readStrict index (octets ++ rest) =
      (Reader.start.readStrict (index + octets.length) rest).map (c :: ·) := by
  induction reads generalizing index with
  | last completes => exact readStrict_complete completes index rest
  | more advances _ ih =>
    rw [List.cons_append, readStrict_advance advances, ih, List.length_cons, Nat.add_assoc,
      Nat.add_comm 1]

/-- A character that has begun is not over without its last octet. -/
theorem step_ne_advance_start (reader : Reader) (b : UInt8) : reader.step b ≠ .advance .start := by
  cases reader <;> grind [Reader.step, Reader.lead]

/-- What the strict reader has read is nothing, or a character and more. -/
theorem exists_reads_of_readStrict {reader : Reader} {index : Nat} {octets : List UInt8}
    {text : List Char} (read : reader.readStrict index octets = .ok text) :
    (reader = .start ∧ octets = [] ∧ text = []) ∨
      ∃ first rest c more, octets = first ++ rest ∧ Reader.Reads reader first c ∧
        text = c :: more ∧ Reader.start.readStrict (index + first.length) rest = .ok more := by
  -- The reader may be inside a character, so the induction is for readers at any place.
  induction octets generalizing reader index with
  | nil =>
    cases reader with
    | start => cases read; exact .inl ⟨rfl, rfl, rfl⟩
    | within => cases read
  | cons b octets ih =>
    right
    cases step : reader.step b with
    | complete c =>
      rw [readStrict_complete step] at read
      obtain ⟨more, later, rfl⟩ := map_eq_ok_iff.mp read
      exact ⟨[b], octets, c, more, rfl, .last step, rfl, later⟩
    | advance next =>
      rw [readStrict_advance step] at read
      rcases ih read with ⟨rfl, -, -⟩ | ⟨first, rest, c, more, rfl, reads, rfl, later⟩
      · exact absurd step (step_ne_advance_start reader b)
      · refine ⟨b :: first, rest, c, more, rfl, .more step reads, rfl, ?_⟩
        rwa [List.length_cons, Nat.add_comm first.length, ← Nat.add_assoc]
    | refuse =>
      obtain ⟨fault, failed⟩ := readStrict_refuse step index octets
      rw [failed] at read
      cases read

theorem readStrict_encode (text : List Char) (index : Nat) :
    Reader.start.readStrict index (encode text) = .ok text := by
  induction text generalizing index with
  | nil => rfl
  | cons c text ih =>
    rw [encode, List.flatMap_cons, readStrict_append (reads_encodeChar c)]
    exact map_eq_ok_iff.mpr ⟨text, ih _, rfl⟩

theorem eq_encode_of_readStrict {text : List Char} {index : Nat} {octets : List UInt8}
    (read : Reader.start.readStrict index octets = .ok text) : octets = encode text := by
  -- The induction is on the text, since each of its characters accounts for several octets.
  induction text generalizing index octets with
  | nil =>
    rcases exists_reads_of_readStrict read with ⟨-, rfl, -⟩ | ⟨_, _, _, _, _, _, impossible, _⟩
    · rfl
    · cases impossible
  | cons c text ih =>
    rcases exists_reads_of_readStrict read with
      ⟨-, -, impossible⟩ | ⟨first, rest, d, more, rfl, reads, equal, later⟩
    · cases impossible
    · cases equal
      rw [ih later, reads_start_iff.mp reads]
      rfl

/-- The strict reader reads a text from what is written for it, and from nothing else. -/
theorem decode_eq_ok_iff {octets : List UInt8} {text : List Char} :
    decode octets = .ok text ↔ octets = encode text :=
  ⟨eq_encode_of_readStrict, fun equal => equal ▸ readStrict_encode text 0⟩

@[simp] theorem encode_inj {a b : List Char} : encode a = encode b ↔ a = b := by
  constructor
  · intro same
    have read := decode_eq_ok_iff.mpr same
    rw [decode_eq_ok_iff.mpr rfl] at read
    exact Except.ok.inj read
  · exact congrArg encode

theorem encode_cons_ascii {c : Char} (ascii : c.toNat < 0x80) (text : List Char) :
    encode (c :: text) = UInt8.ofNat c.toNat :: encode text := by
  rw [encode, List.flatMap_cons, encodeChar_eq, if_pos (by omega)]
  rfl

end Hashgate.Utf8

import Hashgate.Proofs.Gate.Admission
import Hashgate.Proofs.Issuing
import Hashgate.Proofs.Judging
import Hashgate.Proofs.Text.Pieces

/-! # Results as octets

A result comes as octets, of which nobody says that they are text.  The gate reads them as text all the
same, and the colons decide how: what stands between two of them is read by itself, so octets that are no
text spoil their own field and no other.  All fields of a result that is judged have to agree with an
ASCII challenge or spell numbers, but for the extension, which nobody looks at.

* `Stream.Finds`, `Fares`, `submitted` — what the one read finds, and what becomes of it.
* `Submission.Alike` — submissions that differ in the spelling of the header at most.
* `withExtension` — other octets in the fifth place.
* `isAscii_of_judged` — the fields of a result that is judged.
* `fares_pieces` — what the pieces of a result decide.
-/

namespace Hashgate

open Session
open Gate (standard_easyResult)
open Header (parse Divided)

variable {challenge result : String} {octets extension : List UInt8} {s left : Stream}

/-! ## One read -/

/-- The next read of a stream finds some octets. -/
def Stream.Finds (s : Stream) (octets : List UInt8) (left : Stream) : Prop :=
  ∃ moment, s.ready? = some moment ∧ (s.advance moment).take readCapacity = (.ok octets, left)

/-- What becomes of octets that can be read at once, whatever the stream that they come from. -/
structure Fares (challenge : String) (octets : List UInt8) (submission : Submission) : Prop where
  found : ∃ s left, Stream.Finds s octets left
  fares : ∀ s left, Stream.Finds s octets left →
    ∃ trace, (awaitSubmission .standard challenge).play s = (trace, some (submission, left))

theorem play_awaitSubmission_advance {moment : Nat} (ready : s.ready? = some moment)
    (verify : Verifier) (challenge : String) :
    (awaitSubmission verify challenge).play (s.advance moment) =
      (awaitSubmission verify challenge).play s := by
  rw [awaitSubmission, play_bind, play_bind, play_receive_advance ready, play_receive ready]

theorem Stream.exists_finds (short : octets.length ≤ readCapacity) :
    ∃ s left, Stream.Finds s octets left :=
  ⟨.ofSteps [⟨.data octets, 0, 0⟩] .silence .free, .ofSteps [] .silence .free, 0, rfl,
    if_pos short⟩

/-- What the standard verifier makes of the text of the octets. -/
def submitted (challenge : String) (octets : List UInt8) : Submission :=
  Gate.submission (Utf8.toStringLossy octets)
    (Verifier.standard (Utf8.toStringLossy octets) challenge)

theorem fares_submitted (nonempty : octets ≠ []) (short : octets.length ≤ readCapacity) :
    Fares challenge octets (submitted challenge octets) where
  found := Stream.exists_finds short
  fares := by
    rintro s left ⟨moment, ready, taken⟩
    rw [← play_awaitSubmission_advance ready]
    exact ⟨_, (Gate.Submits.judged taken nonempty rfl).play_eq ready⟩

/-- Submissions that differ in the spelling of the header at most. -/
inductive Submission.Alike : Submission → Submission → Prop
  | verified (header other : String) (valid : Bool) :
      Alike (.verified header valid) (.verified other valid)
  | same (submission : Submission) : Alike submission submission

theorem alike_submission (result other : String) (verdict : Verdict) :
    (Gate.submission result verdict).Alike (Gate.submission other verdict) := by
  cases verdict with
  | judged judgement => exact .verified result other judgement.isValid
  | refused error => exact .same _
  | died => exact .same _

/-! ## Fields of results -/

theorem exists_judge_of_verified {header : String} {valid : Bool}
    (verified : submitted challenge octets = .verified header valid) :
    ∃ judgement, judge (Utf8.toStringLossy octets) challenge = .ok judgement := by
  unfold submitted Verifier.standard at verified
  cases judged : judge (Utf8.toStringLossy octets) challenge with
  | ok judgement => exact ⟨judgement, rfl⟩
  | error error =>
    rw [judged] at verified
    cases verified

/-- Every field of a result that is judged is ASCII, but for the extension. -/
theorem isAscii_of_judged {judgement : Judgement} (ascii : IsAscii challenge.toList)
    (judged : judge result challenge = .ok judgement) :
    ∃ version bits date resource extension random counter,
      Divided result version bits date resource extension random counter ∧
        ∀ field ∈ [version, bits, date, resource, random, counter], IsAscii field := by
  obtain ⟨answer, asked, readAnswer, readAsked, same, -⟩ := judge_eq_ok_iff.mp judged
  obtain ⟨version, bits, _, digits, divided, -, one, spells, -⟩ :=
    Header.parse_eq_ok_iff.mp readAnswer
  obtain ⟨_, _, _, _, challengeDivided, -⟩ := Header.parse_eq_ok_iff.mp readAsked
  -- Three of the fields are those of the challenge, and the others spell numbers.
  rw [challengeDivided.joined] at ascii
  refine ⟨_, _, _, _, _, _, _, divided, ?_⟩
  simp only [List.forall_mem_cons]
  refine ⟨one.isAscii, spells.isAscii, ?_, ?_, ?_, isAscii_base64 _, List.forall_mem_nil _⟩
  · rw [same]
    exact ascii.of_mem_join (by simp)
  · rw [same]
    exact ascii.of_mem_join (by simp)
  · rw [same]
    exact ascii.of_mem_join (by simp)

/-! ## Pieces of octets -/

/-- The same octets with others in the fifth place between colons. -/
def withExtension (octets extension : List UInt8) : List UInt8 :=
  [0x3A].intercalate ((octets.splitOn 0x3A).set 4 extension)

theorem split_toStringLossy (octets : List UInt8) :
    Fields.split ':' (Utf8.toStringLossy octets).toList =
      (octets.splitOn 0x3A).map Utf8.decodeLossy := by
  rw [Utf8.toStringLossy, String.toList_ofList]
  exact Utf8.split_decodeLossy (b := 0x3A) (by decide) octets

theorem count_toStringLossy (octets : List UInt8) :
    (Utf8.toStringLossy octets).toList.count ':' = octets.count 0x3A := by
  rw [Utf8.toStringLossy, String.toList_ofList]
  exact Utf8.count_decodeLossy (b := 0x3A) (by decide) octets

theorem splitOn_withExtension (colonless : 0x3A ∉ extension) (octets : List UInt8) :
    (withExtension octets extension).splitOn 0x3A = (octets.splitOn 0x3A).set 4 extension := by
  apply List.splitOn_intercalate
  · intro piece member
    obtain among | rfl := List.mem_or_eq_of_mem_set member
    · exact Utf8.not_mem_of_mem_splitOn among
    · exact colonless
  · intro empty
    exact List.splitOn_ne_nil _ _ (List.set_eq_nil_iff _ _ |>.mp empty)

/-- Reading skips the extension, be it text or not. -/
theorem parse_withExtension (six : octets.count 0x3A = 6) (colonless : 0x3A ∉ extension) :
    parse (Utf8.toStringLossy (withExtension octets extension)) =
      parse (Utf8.toStringLossy octets) := by
  obtain ⟨version, bits, date, resource, skipped, random, counter, divided⟩ :=
    Header.exists_divided ((count_toStringLossy octets).trans six)
  have pieces := (split_toStringLossy octets).symm.trans divided.split_eq
  have replaced : Fields.split ':' (Utf8.toStringLossy (withExtension octets extension)).toList =
      [version, bits, date, resource, Utf8.decodeLossy extension, random, counter] := by
    rw [split_toStringLossy, splitOn_withExtension colonless, List.map_set, pieces]
    rfl
  obtain ⟨joined, fields⟩ := (Fields.split_eq_iff (List.cons_ne_nil _ _)).mp replaced
  have other : Divided (Utf8.toStringLossy (withExtension octets extension)) version bits date
      resource (Utf8.decodeLossy extension) random counter := ⟨joined, fields⟩
  rw [other.parse_eq, divided.parse_eq]

theorem standard_congr {other : String} (same : parse other = parse result) :
    Verifier.standard other challenge = Verifier.standard result challenge := by
  rw [Verifier.standard, Verifier.standard, judge, judge, same]

theorem isAscii_piece {judgement : Judgement} (ascii : IsAscii challenge.toList)
    (judged : judge (Utf8.toStringLossy octets) challenge = .ok judgement) {index : Nat}
    {piece : List UInt8} (at_index : (octets.splitOn 0x3A)[index]? = some piece)
    (other : index ≠ 4) : ∀ octet ∈ piece, octet < 0x80 := by
  obtain ⟨version, bits, date, resource, skipped, random, counter, divided, fields⟩ :=
    isAscii_of_judged ascii judged
  have pieces := (split_toStringLossy octets).symm.trans divided.split_eq
  have read : [version, bits, date, resource, skipped, random, counter][index]? =
      some (Utf8.decodeLossy piece) := by
    rw [← pieces, List.getElem?_map, at_index]
    rfl
  have field : IsAscii (Utf8.decodeLossy piece) := by
    apply fields
    match index, read with
    | 0, read | 1, read | 2, read | 3, read | 5, read | 6, read => cases read; simp
  intro octet member
  exact UInt8.lt_iff_toNat_lt.mpr (Utf8.isAscii_decodeLossy_iff.mp field octet member)

theorem withExtension_ne_nil (six : octets.count 0x3A = 6) (colonless : 0x3A ∉ extension) :
    withExtension octets extension ≠ [] := by
  intro empty
  have seven := congrArg List.length (splitOn_withExtension colonless octets)
  rw [empty, List.length_set, Utf8.length_splitOn 0x3A octets, six] at seven
  cases seven

/-- **A result is read piece by piece, and one piece is free.**  For every challenge that is ASCII and can
be read, as all minted ones are, and all octets that one read takes, colons are read as colons and nothing
else is, so the fields of the text are the pieces between the colons, each read by itself.  A result that
is judged has seven pieces, all of them ASCII but for the extension; and whatever stands in the place of
the extension, text or not, the result fares alike. -/
theorem fares_pieces :
    (∀ (mint : Mint) (bits : UInt32) (token : Token),
      IsAscii (mint.text bits token.text).toList ∧
        ∃ asked, parse (mint.text bits token.text) = .ok asked) ∧
    ∀ challenge, IsAscii challenge.toList → (∃ asked, parse challenge = .ok asked) →
      ∀ octets : List UInt8, 1 ≤ octets.length → octets.length ≤ 1024 →
        Fares challenge octets (submitted challenge octets) ∧
        (Utf8.toStringLossy octets).toList.count ':' = octets.count 0x3A ∧
        Fields.split ':' (Utf8.toStringLossy octets).toList =
          (octets.splitOn 0x3A).map Utf8.decodeLossy ∧
        ((∃ header valid, submitted challenge octets = .verified header valid) →
          octets.count 0x3A = 6 ∧
            ∀ index piece, (octets.splitOn 0x3A)[index]? = some piece → index ≠ 4 →
              ∀ octet ∈ piece, octet < 0x80) ∧
        (octets.count 0x3A = 6 → ∀ extension : List UInt8, 0x3A ∉ extension →
          (withExtension octets extension).length ≤ 1024 →
            Fares challenge (withExtension octets extension)
                (submitted challenge (withExtension octets extension)) ∧
              (submitted challenge octets).Alike
                (submitted challenge (withExtension octets extension))) := by
  refine ⟨fun mint bits token => ⟨?_, mint.header bits token.text, ?_⟩, ?_⟩
  · exact mint.isAscii_render bits token mint.counter
  · rw [mint.parse_text, if_neg token.colon_not_mem_text]
  intro challenge ascii _ octets positive short
  refine ⟨fares_submitted (List.ne_nil_of_length_pos positive) short, count_toStringLossy octets,
    split_toStringLossy octets, ?_, ?_⟩
  · rintro ⟨header, valid, verified⟩
    obtain ⟨judgement, judged⟩ := exists_judge_of_verified verified
    obtain ⟨answer, -, readAnswer, -⟩ := judge_eq_ok_iff.mp judged
    refine ⟨?_, fun index piece at_index other => isAscii_piece ascii judged at_index other⟩
    -- With any other number of colons it could not have been read.
    apply Decidable.byContradiction
    intro uneven
    rw [← count_toStringLossy] at uneven
    rw [Header.parse_eq_malformed_iff.mpr ⟨rfl, uneven⟩] at readAnswer
    cases readAnswer
  · intro six extension colonless fits
    refine ⟨fares_submitted (withExtension_ne_nil six colonless) fits, ?_⟩
    rw [submitted, submitted, standard_congr (parse_withExtension six colonless)]
    exact alike_submission _ _ _

/-- With half a character for its extension a solution is still good. -/
theorem fares_pieces_broken : ∃ header,
    Fares easyChallenge (withExtension (Utf8.ofString easyResult) [0xE2, 0x82])
      (.verified header true) := by
  have ascii : IsAscii easyChallenge.toList := by decide
  have verified : submitted easyChallenge (Utf8.ofString easyResult) =
      .verified easyResult true := by
    rw [submitted, Utf8.toStringLossy_ofString, standard_easyResult]
    rfl
  obtain ⟨-, -, -, -, replace⟩ := fares_pieces.2 _ ascii ⟨_, parse_easyChallenge⟩
    (Utf8.ofString easyResult) (by decide) (by decide)
  obtain ⟨fares, alike⟩ := replace (by decide) [0xE2, 0x82] (by decide) (by decide)
  rw [verified] at alike
  generalize submitted _ _ = other at fares alike
  cases alike with
  | verified => exact ⟨_, fares⟩
  | same => exact ⟨_, fares⟩

end Hashgate

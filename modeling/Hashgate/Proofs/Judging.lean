import Hashgate.Proofs.Header.RoundTrip
import Hashgate.Proofs.Solution

/-! # How a result is judged

Judging reads both texts, the result first, compares the headers, and only then looks at a digest.  The
digest is taken of the header, not of the text that the peer sent, so nothing about the spelling of
that text reaches it.

* `Header.Differs` — headers that ask for different work.
* `Judges`, `judges_judge` — the four ways in which judging can go.
* `judge_congr` — texts of the same headers are judged alike, whatever counter the challenge has.
* `judge_decides` — when each way is taken.
-/

namespace Hashgate

open Header (parse)

variable {result challenge : String} {answer asked : Header}

/-! ## Headers that differ -/

/-- Something other than the counter and the version differs. -/
def Header.Differs (a b : Header) : Prop :=
  a.bits ≠ b.bits ∨ a.date ≠ b.date ∨ a.resource ≠ b.resource ∨ a.random ≠ b.random

theorem Header.not_differs_iff {a b : Header} (versions : a.version = b.version) :
    ¬ a.Differs b ↔ a = { b with counter := a.counter } := by
  cases a
  cases b
  cases versions
  simp [Differs]

/-- All headers that are read have one version, so it never tells two of them apart. -/
theorem version_eq_of_parse (readAnswer : parse result = .ok answer)
    (readAsked : parse challenge = .ok asked) : answer.version = asked.version := by
  rw [(Header.wellFormed_of_parse readAnswer).supported,
    (Header.wellFormed_of_parse readAsked).supported]

/-! ## The ways of judging -/

/-- How the judging of a result can go. -/
inductive Judges (result challenge : String) : Except GateError Judgement → Prop
  | calculated {fault : Header.Fault} : parse result = .error fault →
      Judges result challenge (.error (.calculated fault))
  | challenge {answer : Header} {fault : Header.Fault} : parse result = .ok answer →
      parse challenge = .error fault → Judges result challenge (.error (.challenge fault))
  | mismatch {answer asked : Header} : parse result = .ok answer → parse challenge = .ok asked →
      answer.Differs asked → Judges result challenge (.error .mismatch)
  | judged {answer asked : Header} : parse result = .ok answer → parse challenge = .ok asked →
      answer = { asked with counter := answer.counter } → Judges result challenge (.ok answer.judge)

theorem judges_judge (result challenge : String) :
    Judges result challenge (judge result challenge) := by
  unfold judge
  cases readAnswer : parse result with
  | error fault => exact .calculated readAnswer
  | ok answer =>
    cases readAsked : parse challenge with
    | error fault => exact .challenge readAnswer readAsked
    | ok asked =>
      simp only [mapError_ok, bind, Except.bind]
      have versions := version_eq_of_parse readAnswer readAsked
      by_cases differs : answer.Differs asked
      · rw [if_neg fun same => ?_]
        · exact .mismatch readAnswer readAsked differs
        · exact (Header.not_differs_iff versions).mpr (Header.sameChallenge_iff.mp same) differs
      · have same := (Header.not_differs_iff versions).mp differs
        rw [if_pos (Header.sameChallenge_iff.mpr same)]
        exact .judged readAnswer readAsked same

theorem judge_of_differs (readAnswer : parse result = .ok answer)
    (readAsked : parse challenge = .ok asked) (differs : answer.Differs asked) :
    judge result challenge = .error .mismatch := by
  have judges := judges_judge result challenge
  generalize judge result challenge = verdict at judges
  cases judges with
  | calculated faulty => rw [readAnswer] at faulty; cases faulty
  | challenge _ faulty => rw [readAsked] at faulty; cases faulty
  | mismatch => rfl
  | judged sameAnswer sameAsked same =>
    rw [readAnswer] at sameAnswer
    rw [readAsked] at sameAsked
    cases sameAnswer
    cases sameAsked
    exact absurd differs ((Header.not_differs_iff (version_eq_of_parse readAnswer readAsked)).mpr same)

/-- A result that belongs to its challenge is judged as the challenge's own header with the counter of
the result. -/
theorem judge_of_not_differs (readAnswer : parse result = .ok answer)
    (readAsked : parse challenge = .ok asked) (alike : ¬ answer.Differs asked) :
    judge result challenge = .ok ({ asked with counter := answer.counter } : Header).judge := by
  have versions := version_eq_of_parse readAnswer readAsked
  have same := (Header.not_differs_iff versions).mp alike
  exact judge_eq_ok_iff.mpr ⟨answer, asked, readAnswer, readAsked, same, congrArg Header.judge same⟩

/-- The spelling of a header does not matter to its judge, and neither does the challenge's counter. -/
theorem judge_congr {otherResult otherChallenge : String} {counter : Int64}
    (readAnswer : parse result = .ok answer) (readOther : parse otherResult = .ok answer)
    (readAsked : parse challenge = .ok asked)
    (readOtherAsked : parse otherChallenge = .ok { asked with counter := counter }) :
    judge result challenge = judge otherResult otherChallenge := by
  by_cases differs : answer.Differs asked
  · rw [judge_of_differs readAnswer readAsked differs,
      judge_of_differs readOther readOtherAsked differs]
  · rw [judge_of_not_differs readAnswer readAsked differs,
      judge_of_not_differs readOther readOtherAsked differs]

/-! ## What judging decides -/

theorem Header.isValid_judge_iff {h : Header} : h.judge.isValid = true ↔ h.isSolved = true := by
  unfold judge
  split <;> simp [*, Judgement.isValid]

theorem judge_eq_calculated_iff {fault : Header.Fault} :
    judge result challenge = .error (.calculated fault) ↔ parse result = .error fault := by
  have judges := judges_judge result challenge
  generalize judge result challenge = verdict at judges
  cases judges with
  | calculated faulty => simp [faulty]
  | challenge readAnswer => simp [readAnswer]
  | mismatch readAnswer => simp [readAnswer]
  | judged readAnswer => simp [readAnswer]

theorem judge_eq_challenge_iff {fault : Header.Fault} :
    judge result challenge = .error (.challenge fault) ↔
      (∃ answer, parse result = .ok answer) ∧ parse challenge = .error fault := by
  have judges := judges_judge result challenge
  generalize judge result challenge = verdict at judges
  cases judges with
  | calculated faulty => simp [faulty]
  | challenge readAnswer faulty => simp [readAnswer, faulty]
  | mismatch _ readAsked => simp [readAsked]
  | judged _ readAsked => simp [readAsked]

/-- **Judging decides the proof of work, and the counter is all that a solver is free to choose.**  A
fault of the result comes before one of the challenge, a mismatch before the digest, and the digest is
that of the challenge's header with the counter of the result.  So results of one header have one
verdict, and the counter of the challenge has no part in it. -/
theorem judge_decides (result challenge : String) :
    (∀ fault, judge result challenge = .error (.calculated fault) ↔ parse result = .error fault) ∧
    (∀ fault, judge result challenge = .error (.challenge fault) ↔
      (∃ answer, parse result = .ok answer) ∧ parse challenge = .error fault) ∧
    (∀ answer asked, parse result = .ok answer → parse challenge = .ok asked →
      answer.version = asked.version ∧
      (judge result challenge = .error .mismatch ↔
        answer.bits ≠ asked.bits ∨ answer.date ≠ asked.date ∨ answer.resource ≠ asked.resource ∨
          answer.random ≠ asked.random) ∧
      ∀ valid : Bool, (∃ judgement, judge result challenge = .ok judgement ∧ judgement.isValid = valid) ↔
        (answer.bits = asked.bits ∧ answer.date = asked.date ∧ answer.resource = asked.resource ∧
          answer.random = asked.random) ∧
        (valid = true ↔ asked.bits.toNat ≤ leadingZeros (Sha256.digest
          (Utf8.ofString ({ asked with counter := answer.counter } : Header).render)))) ∧
    ∀ otherResult otherChallenge answer asked counter,
      parse result = .ok answer → parse otherResult = .ok answer →
      parse challenge = .ok asked → parse otherChallenge = .ok { asked with counter := counter } →
      judge result challenge = judge otherResult otherChallenge := by
  refine ⟨fun _ => judge_eq_calculated_iff, fun _ => judge_eq_challenge_iff, ?_,
    fun _ _ _ _ _ => judge_congr⟩
  intro answer asked readAnswer readAsked
  refine ⟨version_eq_of_parse readAnswer readAsked, ?_⟩
  -- Headers that differ have no verdict, and the others have that of the digest.
  by_cases differs : answer.Differs asked
  · rw [judge_of_differs readAnswer readAsked differs]
    refine ⟨⟨fun _ => differs, fun _ => rfl⟩, fun valid => ⟨?_, ?_⟩⟩
    · rintro ⟨_, impossible, _⟩
      cases impossible
    · rintro ⟨⟨bits, date, resource, random⟩, _⟩
      simp [Header.Differs, bits, date, resource, random] at differs
  · rw [judge_of_not_differs readAnswer readAsked differs]
    have alike : answer.bits = asked.bits ∧ answer.date = asked.date ∧
        answer.resource = asked.resource ∧ answer.random = asked.random := by
      simpa only [Header.Differs, not_or, ne_eq, Decidable.not_not] using differs
    refine ⟨⟨nofun, fun other => absurd other differs⟩, fun valid => ?_⟩
    have solved := Header.isValid_judge_iff.trans
      (Header.isSolved_iff (h := { asked with counter := answer.counter }))
    constructor
    · rintro ⟨_, same, rfl⟩
      cases same
      exact ⟨alike, solved⟩
    · rintro ⟨_, enough⟩
      refine ⟨_, rfl, ?_⟩
      rw [Bool.eq_iff_iff, solved, enough]

/-- A challenge for twelve bits, and a solution of it. -/
def plainHeader : Header :=
  ⟨1, 12, "2208082121", "d778f1e9-d0a8-485e-ab51-053a12e9b397", "cRvZdlXCCIrWoQ==",
    4002984385551524138⟩

def plainAnswer : Header := { plainHeader with counter := 4002984385551528728 }

/-- The text of the solution with signs, a leading zero and an extension. -/
def ornateResult : String :=
  "+1:+012:2208082121:d778f1e9-d0a8-485e-ab51-053a12e9b397:extra:cRvZdlXCCIrWoQ==:" ++
    "KzQwMDI5ODQzODU1NTE1Mjg3Mjg="

theorem wellFormed_plainHeader : plainHeader.WellFormed := ⟨by decide, rfl, by decide⟩

theorem parse_render_plainHeader (counter : Int64) :
    parse ({ plainHeader with counter := counter } : Header).render =
      .ok { plainHeader with counter := counter } :=
  Header.parse_render_of_wellFormed ⟨wellFormed_plainHeader.colonless,
    wellFormed_plainHeader.supported, wellFormed_plainHeader.stamp⟩

/-- However it is spelled, the solution is good, also for a challenge with another counter. -/
theorem judge_decides_ornate :
    judge ornateResult plainHeader.render =
        judge plainAnswer.render ({ plainHeader with counter := -1 } : Header).render ∧
      ∃ judgement, judge ornateResult plainHeader.render = .ok judgement ∧
        judgement.isValid = true := by
  have ornate : parse ornateResult = .ok plainAnswer := rfl
  have plain : parse plainAnswer.render = .ok plainAnswer := parse_render_plainHeader _
  have asked : parse plainHeader.render = .ok plainHeader :=
    Header.parse_render_of_wellFormed wellFormed_plainHeader
  have solved : ({ plainHeader with counter := plainAnswer.counter } : Header).isSolved = true := by
    decide +kernel
  have enough := Header.isSolved_iff.mp solved
  obtain ⟨_, _, verdict, spelling⟩ := judge_decides ornateResult plainHeader.render
  refine ⟨spelling _ _ _ plainHeader _ ornate plain asked (parse_render_plainHeader _), ?_⟩
  exact ((verdict _ _ ornate asked).2.2 true).mpr ⟨⟨rfl, rfl, rfl, rfl⟩, iff_of_true rfl enough⟩

end Hashgate

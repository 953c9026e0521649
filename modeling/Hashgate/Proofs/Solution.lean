import Hashgate.Gate.Submission
import Hashgate.Proofs.Digest.LeadingZeros
import Hashgate.Proofs.Reading

/-! # Which results are judged, and how

A result is judged once both texts are headers that differ at most in the counter.  It is good if the
digest of its canonical text has as many leading zeros as the header asks for.

* `Header.sameChallenge_iff` — headers that differ at most in the counter.
* `judge_eq_ok_iff` — the results that are judged.
* `Verifier.standard_eq_valid_iff` — the results that are good.
-/

namespace Hashgate

variable {result challenge : String} {judgement : Judgement}

/-! ## Headers -/

theorem Header.sameChallenge_iff {a b : Header} :
    a.sameChallenge b = true ↔ a = { b with counter := a.counter } := by
  cases a
  cases b
  simp [sameChallenge, and_assoc]

theorem Header.judge_eq_valid_iff {h : Header} : h.judge = .valid ↔ h.isSolved = true := by
  unfold judge
  split <;> simp [*]

theorem Header.isSolved_iff {h : Header} :
    h.isSolved = true ↔ h.bits.toNat ≤ leadingZeros (Sha256.digest (Utf8.ofString h.render)) :=
  hasLeadingZeros_iff

/-! ## Results -/

/-- A result is judged if it is a header, the challenge is one, and they differ in the counter. -/
theorem judge_eq_ok_iff :
    judge result challenge = .ok judgement ↔ ∃ answer asked, Header.parse result = .ok answer ∧
      Header.parse challenge = .ok asked ∧ answer = { asked with counter := answer.counter } ∧
      answer.judge = judgement := by
  simp only [judge, bind_eq_ok_iff, mapError_eq_ok_iff]
  constructor
  · rintro ⟨answer, readAnswer, asked, readAsked, judged⟩
    split at judged
    · next same =>
      cases judged
      exact ⟨answer, asked, readAnswer, readAsked, Header.sameChallenge_iff.mp same, rfl⟩
    · cases judged
  · rintro ⟨answer, asked, readAnswer, readAsked, same, rfl⟩
    refine ⟨answer, readAnswer, asked, readAsked, ?_⟩
    rw [if_pos (Header.sameChallenge_iff.mpr same)]
    rfl

theorem Verifier.standard_eq_valid_iff :
    Verifier.standard result challenge = .judged .valid ↔
      ∃ answer asked, Header.parse result = .ok answer ∧ Header.parse challenge = .ok asked ∧
        answer = { asked with counter := answer.counter } ∧ answer.isSolved = true := by
  have judged : Verifier.standard result challenge = .judged .valid ↔
      judge result challenge = .ok .valid := by
    unfold standard
    cases judge result challenge <;> simp
  simp only [judged, judge_eq_ok_iff, Header.judge_eq_valid_iff]

end Hashgate

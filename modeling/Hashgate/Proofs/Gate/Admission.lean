import Hashgate.Proofs.Gate.Discipline
import Hashgate.Proofs.Mining
import Hashgate.Proofs.Text.Lossy

/-! # Who gets past a gate

There is one way to the next program, and it is described here by what the peer, the generator and the
verifier do on it.  A session that goes any other way stays with the gate, and does not end as passed.

* `Passage` — the way to the next program.
* `Passage.exists_course`, `Course.exists_passage` — the sessions that get past are those on this way.
* `handle_serves_iff_passage` — the same of whole sessions, with what the verifier is asked.
-/

namespace Hashgate.Gate

open Session

variable {gate : Gate} {signal : Signal} {challenge : String} {s left : Stream} {own : Trace}

/-! ## The way to the next program -/

/-- The way to the next program.  The first message is there before the signal, and is read; the
generator makes a challenge, which is written as a whole and pushed out; the next message is there
before the deadline and the signal, and is read; and the verifier finds it good. -/
structure Passage (gate : Gate) (signal : Signal) (s : Stream) where
  /-- When the first message is there. -/
  greeted : Nat
  opening : List UInt8
  /-- The stream after the first message. -/
  opened : Stream
  challenge : String
  /-- The acts of saying the challenge. -/
  words : Trace
  said : Except IoError Unit
  /-- The stream after the challenge. -/
  asked : Stream
  /-- When the result is there. -/
  answered : Nat
  result : List UInt8
  /-- The stream after the result. -/
  left : Stream
  notStopped : signal.precedes s.now = false
  greets : s.ready? = some greeted
  greets_before_signal : ∀ stop, signal.moment? = some stop → greeted ≤ stop
  opens : (s.advance greeted).take readCapacity = (.ok opening, opened)
  accepted : gate.config.validate = .ok ()
  generated :
    gate.generate (gate.config.chooseBits gate.draw.bits) gate.draw.token.text = .ok challenge
  tells : (say challenge).play opened = (words, some (said, asked))
  complete : written words = Utf8.ofString challenge
  flushed : asked.flushFault? = none
  answers : asked.ready? = some answered
  answers_before_deadline : answered ≤ asked.now + gate.config.patience
  answers_before_signal : ∀ stop, signal.moment? = some stop → answered ≤ stop
  reads : (asked.advance answered).take readCapacity = (.ok result, left)
  nonempty : result ≠ []
  valid : gate.verify (Utf8.toStringLossy result) challenge = .judged .valid

theorem Passage.exists_course (passage : Passage gate signal s) :
    ∃ own, Course gate signal s (.serves own passage.left) := by
  have issued := GateConfig.issue_eq_ok_iff.mpr
    ⟨passage.accepted, passage.challenge, passage.generated, rfl⟩
  have ok : passage.said = .ok () :=
    (saying_of_play passage.tells).complete.mpr ⟨passage.complete, passage.flushed⟩
  have tells := passage.tells
  rw [ok] at tells
  have inTime : NotAfter passage.answered
      [some (passage.asked.now + gate.config.patience), signal.moment?] := by
    intro other member
    simp only [List.mem_cons, Option.some.injEq, List.not_mem_nil, or_false] at member
    obtain rfl | given := member
    · exact passage.answers_before_deadline
    · exact passage.answers_before_signal other given.symm
  have submits : Submits gate.verify passage.challenge (passage.asked.advance passage.answered) _ _ _ :=
    .judged passage.reads passage.nonempty rfl
  rw [passage.valid] at submits
  have greets : NotAfter passage.greeted [signal.moment?] := fun other member =>
    passage.greets_before_signal other (List.mem_singleton.mp member).symm
  exact ⟨_, .heard passage.notStopped passage.greets greets passage.opens
    (.said issued tells (.answered passage.answers inTime submits))⟩

theorem Awaits.exists_valid_of_serves (awaits : Awaits gate challenge signal s (.serves own left)) :
    ∃ answered result, s.ready? = some answered ∧
      NotAfter answered [some (s.now + gate.config.patience), signal.moment?] ∧
      (s.advance answered).take readCapacity = (.ok result, left) ∧ result ≠ [] ∧
      gate.verify (Utf8.toStringLossy result) challenge = .judged .valid := by
  generalize served : Conduct.serves own left = conduct at awaits
  cases awaits with
  | expired => cases served
  | interrupted => cases served
  | @answered answered _ _ _ ready inTime submits =>
    obtain ⟨_, concluded, -⟩ := Conduct.exists_serves_of_after served.symm
    obtain ⟨⟨header, rfl⟩, rfl⟩ := concluded_eq_serves concluded
    obtain ⟨octets, taken, nonempty, valid⟩ := submits.exists_valid
    exact ⟨answered, octets, ready, inTime, taken, nonempty, valid⟩

theorem Exchanges.exists_awaits_of_serves (exchanges : Exchanges gate signal s (.serves own left)) :
    ∃ issued words asked rest, gate.config.issue gate.draw gate.generate = .ok issued ∧
      (say issued.header).play s = (words, some (.ok (), asked)) ∧
      Awaits gate issued.header signal asked (.serves rest left) := by
  generalize served : Conduct.serves own left = conduct at exchanges
  cases exchanges with
  | unissued => cases served
  | unsaid => cases served
  | said issued tells awaits =>
    obtain ⟨rest, rfl, -⟩ := Conduct.exists_serves_of_after served.symm
    exact ⟨_, _, _, rest, issued, tells, awaits⟩

/-- Whoever is served has come the one way. -/
theorem Course.exists_passage (course : Course gate signal s (.serves own left)) :
    ∃ passage : Passage gate signal s, passage.left = left := by
  generalize served : Conduct.serves own left = conduct at course
  cases course with
  | stopped => cases served
  | stalled => cases served
  | interrupted => cases served
  | unheard => cases served
  | @heard greeted opening opened _ notStopped greets greetsBefore opens exchanges =>
    obtain ⟨_, rfl, -⟩ := Conduct.exists_serves_of_after served.symm
    obtain ⟨_, words, asked, _, issued, tells, awaits⟩ := exchanges.exists_awaits_of_serves
    obtain ⟨answered, result, answers, inTime, reads, nonempty, valid⟩ := awaits.exists_valid_of_serves
    obtain ⟨accepted, challenge, generated, rfl⟩ := GateConfig.issue_eq_ok_iff.mp issued
    obtain ⟨complete, flushed⟩ := (saying_of_play tells).complete.mp rfl
    exact ⟨{
      greeted, opening, opened, challenge, words, said := .ok (), asked, answered, result, left
      notStopped, greets, opens, accepted, generated, tells, complete, flushed, answers, reads
      nonempty, valid
      greets_before_signal := fun stop given => greetsBefore stop (given ▸ .head _)
      answers_before_deadline := inTime _ (.head _)
      answers_before_signal := fun stop given => inTime stop (given ▸ .tail _ (.head _)) }, rfl⟩

/-! ## Whole sessions -/

theorem Passage.length_le (passage : Passage gate signal s) : passage.result.length ≤ readCapacity :=
  Stream.length_le_of_take passage.reads

/-- A result that the digest decides on carries the proof of work. -/
theorem Passage.exists_answer (passage : Passage gate signal s)
    (standard : gate.verify = Verifier.standard) :
    ∃ answer asked, Header.parse (Utf8.toStringLossy passage.result) = .ok answer ∧
      Header.parse passage.challenge = .ok asked ∧
      answer = { asked with counter := answer.counter } ∧
      asked.bits.toNat ≤ leadingZeros (Sha256.digest (Utf8.ofString answer.render)) := by
  have valid := passage.valid
  rw [standard] at valid
  obtain ⟨answer, asked, readAnswer, readAsked, same, solved⟩ :=
    Verifier.standard_eq_valid_iff.mp valid
  have enough := Header.isSolved_iff.mp solved
  have bits : answer.bits = asked.bits := by rw [same]
  rw [bits] at enough
  exact ⟨answer, asked, readAnswer, readAsked, same, enough⟩

/-- **Who gets past a gate.**  What a gate does is the same whoever stands behind it.  It hands the
stream over once or never, and it does so exactly on the one way to the next program; a session that
ends has passed on this way and on no other.  Of its own it never hands over, it asks the verifier at
most once, and only about a challenge that the generator made and that is all that has been written by
then.  If the verifier goes by the digest, whoever is served has done the work that the challenge asks
for. -/
theorem handle_serves_iff_passage (gate : Gate) (signal : Signal) (s : Stream) :
    ∃ conduct : Conduct,
      (∀ next : Handler, (gate.handle next signal).play s = conduct.play (next signal)) ∧
      (∀ left, (∃ own, conduct = .serves own left) ↔
        ∃ passage : Passage gate signal s, passage.left = left) ∧
      (∀ (next : Handler) trace outcome rest,
        (gate.handle next signal).play s = (trace, some (outcome, rest)) →
          (outcome = .passed ↔ Nonempty (Passage gate signal s))) ∧
      (∀ mark ∈ conduct.own, mark.2 ≠ .handOver) ∧
      (Quiet conduct.own ∨ ∃ before moment result challenge after,
        conduct.own = before ++ (moment, .judge result challenge) :: after ∧
          Quiet before ∧ Quiet after ∧ written before = Utf8.ofString challenge ∧
          gate.generate (gate.config.chooseBits gate.draw.bits) gate.draw.token.text =
            .ok challenge) ∧
      ∀ passage : Passage gate signal s,
        (1 ≤ passage.result.length ∧ passage.result.length ≤ 1024) ∧
        (gate.verify = Verifier.standard →
          ∃ answer asked, Header.parse (Utf8.toStringLossy passage.result) = .ok answer ∧
            Header.parse passage.challenge = .ok asked ∧
            answer = { asked with counter := answer.counter } ∧
            asked.bits.toNat ≤ leadingZeros (Sha256.digest (Utf8.ofString answer.render))) := by
  obtain ⟨conduct, course⟩ := exists_course gate signal s
  have serves (left : Stream) : (∃ own, conduct = .serves own left) ↔
      ∃ passage : Passage gate signal s, passage.left = left := by
    constructor
    · rintro ⟨own, rfl⟩
      exact course.exists_passage
    · rintro ⟨passage, rfl⟩
      obtain ⟨own, served⟩ := passage.exists_course
      -- A session has one course, so the one on this way is the one it has.
      exact ⟨own, course.unique served⟩
  obtain ⟨orderly, unpassed⟩ := course.disciplined
  refine ⟨conduct, course.play_eq, serves, ?_, orderly.ne_handOver, ?_, fun passage => ?_⟩
  · intro next trace outcome rest played
    rw [course.play_eq] at played
    constructor
    · rintro rfl
      cases conduct with
      | stays others =>
        rw [Conduct.play_stays] at played
        exact absurd rfl (unpassed trace .passed rest (congrArg _ played))
      | serves own left =>
        obtain ⟨passage, -⟩ := (serves left).mp ⟨own, rfl⟩
        exact ⟨passage⟩
    · rintro ⟨passage⟩
      obtain ⟨own, rfl⟩ := (serves passage.left).mpr ⟨passage, rfl⟩
      exact Conduct.eq_passed_of_serves played
  · generalize conduct.own = own at orderly
    cases orderly with
    | quiet quiet => exact .inl quiet
    | judged before fit after => exact .inr ⟨_, _, _, _, _, rfl, before, after, fit⟩
  · exact ⟨⟨List.length_pos_iff.mpr passage.nonempty, passage.length_le⟩, passage.exists_answer⟩

/-- A gate that always asks the same. -/
def easyGate : Gate where
  config := .standard
  generate := fun _ _ => .ok easyChallenge
  verify := .standard
  draw := ⟨0, Vector.replicate 16 0⟩

def easyPeer : Stream :=
  .ofSteps [⟨.data [0], 0, 0⟩, ⟨.data (Utf8.ofString easyResult), 0, 1⟩] .ending .free

theorem standard_easyResult : Verifier.standard easyResult easyChallenge = .judged .valid :=
  Verifier.standard_eq_valid_iff.mpr
    ⟨_, _, parse_easyResult, parse_easyChallenge, rfl, firstSolved_easyHeader.solved⟩

def easyPassage : Passage easyGate .never easyPeer where
  greeted := 0
  opening := [0]
  opened := _
  challenge := easyChallenge
  words := _
  said := _
  asked := _
  answered := 0
  result := Utf8.ofString easyResult
  left := _
  notStopped := rfl
  greets := rfl
  greets_before_signal := nofun
  opens := rfl
  accepted := rfl
  generated := rfl
  tells := rfl
  complete := by decide
  flushed := rfl
  answers := rfl
  answers_before_deadline := by decide
  answers_before_signal := nofun
  reads := rfl
  nonempty := by decide
  valid := by
    rw [Utf8.toStringLossy_ofString]
    exact standard_easyResult

/-- The peer has done some work, and passes the easy gate. -/
theorem handle_serves_iff_passage_easy :
    easyGate.verify = Verifier.standard ∧ ∃ trace outcome left answer,
      (easyGate.handle (fun _ => pure ()) .never).play easyPeer = (trace, some (outcome, left)) ∧
        outcome = .passed ∧ Header.parse easyResult = .ok answer ∧
        8 ≤ leadingZeros (Sha256.digest (Utf8.ofString answer.render)) := by
  obtain ⟨conduct, plays, serves, passed, _, _, answers⟩ :=
    handle_serves_iff_passage easyGate .never easyPeer
  obtain ⟨own, rfl⟩ := (serves easyPassage.left).mpr ⟨easyPassage, rfl⟩
  have played := plays fun _ => pure ()
  obtain ⟨answer, asked, readAnswer, readAsked, -, enough⟩ := (answers easyPassage).2 rfl
  have read : Utf8.toStringLossy easyPassage.result = easyResult := Utf8.toStringLossy_ofString _
  cases parse_easyChallenge.symm.trans readAsked
  exact ⟨rfl, _, _, _, answer, played, (passed _ _ _ _ played).mpr ⟨easyPassage⟩, read ▸ readAnswer,
    enough⟩

end Hashgate.Gate

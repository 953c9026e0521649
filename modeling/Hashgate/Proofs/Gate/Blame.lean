import Hashgate.Proofs.Gate.Calm
import Hashgate.Proofs.Gate.Failing
import Hashgate.Proofs.Issuing
import Hashgate.Proofs.Judging
import Hashgate.Proofs.Session.Free

/-! # Who is to blame for a failure

A gate with acceptable settings and a mint always has a challenge, and one that can be read back.  If it
goes by the digest, then a session fails only because the stream breaks or the result is no good.  So
whatever the peer does, it cannot make the gate fail for a reason of the gate's own, and the kind of a
failure tells what has happened.

* `Rejects` — the kinds of results that are no good.
* `FailsAs`, `failsAs_iff` — the kinds of failure, with their causes.
* `Blame` — what each kind says.
* `serve_blames` — all of this for a gate that is made.
-/

namespace Hashgate.Gate

open Session
open Header (parse)

variable {gate : Gate} {signal : Signal} {challenge result : String} {asked : Header} {s : Stream}
  {conduct : Conduct} {failure : Failure} {kind : ErrorKind}

/-! ## Results that are no good -/

/-- The kind of failure to which a result leads that is no good. -/
inductive Rejects (asked : Header) (result : String) : ErrorKind → Prop
  | unread {fault : Header.Fault} : parse result = .error fault → Rejects asked result .protocol
  | foreign {answer : Header} : parse result = .ok answer → answer.Differs asked →
      Rejects asked result .challengeMismatch
  | short {answer : Header} : parse result = .ok answer → ¬ answer.Differs asked →
      leadingZeros (Sha256.digest (Utf8.ofString answer.render)) < answer.bits.toNat →
      Rejects asked result .verificationFailed

theorem Rejects.exists_failed (rejects : Rejects asked result kind)
    (readAsked : parse challenge = .ok asked) :
    ∃ failure, (submission result (Verifier.standard result challenge)).outcome = .failed failure ∧
      failure.kind = kind := by
  unfold Verifier.standard
  cases rejects with
  | unread faulty =>
    rw [judge_eq_calculated_iff.mpr faulty]
    exact ⟨_, rfl, rfl⟩
  | foreign readAnswer differs =>
    rw [judge_of_differs readAnswer readAsked differs]
    exact ⟨_, rfl, rfl⟩
  | @short answer readAnswer alike few =>
    have same := (Header.not_differs_iff (version_eq_of_parse readAnswer readAsked)).mp alike
    have unsolved : ¬ answer.isSolved = true := fun solved =>
      absurd (Header.isSolved_iff.mp solved) (Nat.not_le.mpr few)
    rw [judge_of_not_differs readAnswer readAsked alike, ← same, Header.judge, if_neg unsolved]
    exact ⟨_, rfl, rfl⟩

theorem rejects_of_failed (readAsked : parse challenge = .ok asked)
    (fails : (submission result (Verifier.standard result challenge)).outcome = .failed failure) :
    Rejects asked result failure.kind := by
  -- The challenge can be read, so three of the four ways of judging are left.
  have judges := judges_judge result challenge
  unfold Verifier.standard at fails
  generalize judge result challenge = verdict at judges fails
  cases judges with
  | calculated faulty =>
    cases fails
    exact .unread faulty
  | challenge _ faulty => cases readAsked.symm.trans faulty
  | mismatch readAnswer readOther differs =>
    cases readAsked.symm.trans readOther
    cases fails
    exact .foreign readAnswer differs
  | @judged answer other readAnswer readOther same =>
    cases readAsked.symm.trans readOther
    have alike := (Header.not_differs_iff (version_eq_of_parse readAnswer readAsked)).mpr same
    by_cases solved : answer.isSolved = true
    · rw [Header.judge, if_pos solved] at fails
      cases fails
    · rw [Header.judge, if_neg solved] at fails
      cases fails
      exact .short readAnswer alike (Nat.not_le.mp (mt Header.isSolved_iff.mpr solved))

/-- Whatever the verifier finds fault with fails. -/
theorem exists_failed_iff (result : String) (verdict : Verdict) :
    (∃ failure, (submission result verdict).outcome = .failed failure) ↔ verdict ≠ .judged .valid := by
  cases verdict with
  | judged judgement =>
    cases judgement with
    | valid => exact iff_of_false nofun (absurd rfl)
    | short => exact iff_of_true ⟨_, rfl⟩ nofun
  | refused => exact iff_of_true ⟨_, rfl⟩ nofun
  | died => exact iff_of_true ⟨_, rfl⟩ nofun

theorem verdict_eq_refused {verdict : Verdict} {error : GateError}
    (fails : (submission result verdict).outcome = .failed failure)
    (caused : failure.cause = .gate error) : verdict = .refused error := by
  cases verdict with
  | judged judgement =>
    cases judgement with
    | valid => cases fails
    | short =>
      cases fails
      cases caused
  | refused other =>
    cases fails
    cases caused
    rfl
  | died =>
    cases fails
    cases caused

theorem standard_ne_challenge (readAsked : parse challenge = .ok asked) (fault : Header.Fault) :
    Verifier.standard result challenge ≠ .refused (.challenge fault) := by
  intro refused
  have faulty : judge result challenge = .error (.challenge fault) := by
    unfold Verifier.standard at refused
    split at refused
    · cases refused
    · next failed =>
      cases refused
      exact failed
  cases readAsked.symm.trans (judge_eq_challenge_iff.mp faulty).2

theorem rejects_protocol_iff :
    Rejects asked result .protocol ↔ ∃ fault, parse result = .error fault := by
  constructor
  · rintro ⟨faulty⟩
    exact ⟨_, faulty⟩
  · rintro ⟨_, faulty⟩
    exact .unread faulty

theorem rejects_challengeMismatch_iff : Rejects asked result .challengeMismatch ↔
    ∃ answer, parse result = .ok answer ∧ answer.Differs asked := by
  constructor
  · rintro (_ | ⟨readAnswer, differs⟩)
    exact ⟨_, readAnswer, differs⟩
  · rintro ⟨_, readAnswer, differs⟩
    exact .foreign readAnswer differs

theorem rejects_verificationFailed_iff : Rejects asked result .verificationFailed ↔
    ∃ answer, parse result = .ok answer ∧ ¬ answer.Differs asked ∧
      leadingZeros (Sha256.digest (Utf8.ofString answer.render)) < answer.bits.toNat := by
  constructor
  · rintro (_ | _ | ⟨readAnswer, alike, few⟩)
    exact ⟨_, readAnswer, alike, few⟩
  · rintro ⟨_, readAnswer, alike, few⟩
    exact .short readAnswer alike few

theorem Rejects.isPeerFault (rejects : Rejects asked result kind) : kind.isPeerFault = true := by
  cases rejects <;> rfl

/-! ## Kinds of failure -/

theorem kind_transport_cases (e : IoError) :
    (GateError.transport e).kind = .timeout ∧ (e.kind = .timedOut ∨ e.kind = .wouldBlock) ∨
      (GateError.transport e).kind = .transport ∧ ¬ (e.kind = .timedOut ∨ e.kind = .wouldBlock) := by
  have isTimeout_iff (kind : IoError.Kind) :
      kind.isTimeout = true ↔ kind = .timedOut ∨ kind = .wouldBlock := by
    cases kind <;> decide
  rw [← isTimeout_iff]
  by_cases late : e.kind.isTimeout = true
  · exact .inl ⟨if_pos late, late⟩
  · exact .inr ⟨if_neg late, late⟩

theorem kind_transport_eq_timeout_iff {e : IoError} :
    (GateError.transport e).kind = .timeout ↔ e.kind = .timedOut ∨ e.kind = .wouldBlock := by
  obtain ⟨kind, late⟩ | ⟨kind, late⟩ := kind_transport_cases e
  · exact iff_of_true kind late
  · exact iff_of_false (kind ▸ nofun) late

theorem kind_transport_eq_transport_iff {e : IoError} :
    (GateError.transport e).kind = .transport ↔ ¬ (e.kind = .timedOut ∨ e.kind = .wouldBlock) := by
  obtain ⟨kind, late⟩ | ⟨kind, late⟩ := kind_transport_cases e
  · exact iff_of_false (kind ▸ nofun) (not_not_intro late)
  · exact iff_of_true kind late

/-- A session that ends as failed, for a reason of some kind. -/
def FailsAs (kind : ErrorKind) (played : Trace × Option (Outcome × Stream)) : Prop :=
  ∃ failure left, played.2 = some (.failed failure, left) ∧ failure.kind = kind

theorem failsAs_of_ends {next : Session Unit} (ends : conduct.Ends (.failed failure)) :
    FailsAs failure.kind (conduct.play next) := by
  cases ends
  exact ⟨failure, _, rfl, rfl⟩

theorem fails_of_failed {next : Handler} {left : Stream}
    (failed : ((gate.handle next signal).play s).2 = some (.failed failure, left)) :
    Fails gate signal s failure := by
  obtain ⟨conduct, course⟩ := exists_course gate signal s
  rw [course.play_eq] at failed
  exact course.fails (Conduct.ends_of_play (Prod.ext rfl failed))

section

variable (signal s) {issued : Issued} (standard : gate.verify = .standard)
  (issues : gate.config.issue gate.draw gate.generate = .ok issued)
  (readAsked : parse issued.header = .ok asked) (next : Handler)

include standard issues readAsked

/-- If a challenge is issued that can be read back, and results are judged by the digest, a session fails
only because its stream breaks or its result is rejected. -/
theorem failsAs_iff :
    FailsAs kind ((gate.handle next signal).play s) ↔
      (∃ e, Breaks gate signal s e ∧ (GateError.transport e).kind = kind) ∨
        ∃ octets, Submitted gate signal s octets ∧ Rejects asked (Utf8.toStringLossy octets) kind := by
  constructor
  · rintro ⟨failure, left, failed, rfl⟩
    cases fails_of_failed failed with
    | unissued unmade => cases issues.symm.trans unmade
    | broken breaks => exact .inl ⟨_, breaks, rfl⟩
    | rejected submitted made fails =>
      cases issues.symm.trans made
      rw [standard] at fails
      exact .inr ⟨_, submitted, rejects_of_failed readAsked fails⟩
  · rintro (⟨e, breaks, rfl⟩ | ⟨octets, submitted, rejects⟩)
    · obtain ⟨conduct, course, ends⟩ := breaks.exists_course
      rw [course.play_eq]
      exact failsAs_of_ends ends
    · obtain ⟨_, conduct, made, course, ends⟩ := submitted.exists_course
      -- The challenge that was said is the one that is issued.
      cases issues.symm.trans made
      obtain ⟨failure, fails, rfl⟩ := rejects.exists_failed readAsked
      rw [standard, fails] at ends
      rw [course.play_eq]
      exact failsAs_of_ends ends

theorem failsAs_peer_iff (peer : kind.isPeerFault = true) :
    FailsAs kind ((gate.handle next signal).play s) ↔
      ∃ octets, Submitted gate signal s octets ∧ Rejects asked (Utf8.toStringLossy octets) kind := by
  rw [failsAs_iff signal s standard issues readAsked]
  refine or_iff_right ?_
  rintro ⟨e, -, rfl⟩
  obtain ⟨same, -⟩ | ⟨same, -⟩ := kind_transport_cases e
  · rw [same] at peer
    cases peer
  · rw [same] at peer
    cases peer

theorem failsAs_stream_iff (foreign : kind.isPeerFault = false) :
    FailsAs kind ((gate.handle next signal).play s) ↔
      ∃ e, Breaks gate signal s e ∧ (GateError.transport e).kind = kind := by
  rw [failsAs_iff signal s standard issues readAsked]
  refine or_iff_left ?_
  rintro ⟨octets, -, rejects⟩
  rw [rejects.isPeerFault] at foreign
  cases foreign

theorem kind_of_failsAs (fails : FailsAs kind ((gate.handle next signal).play s)) :
    kind.isPeerFault = true ∨ kind = .timeout ∨ kind = .transport := by
  obtain ⟨e, -, rfl⟩ | ⟨octets, -, rejects⟩ :=
    (failsAs_iff signal s standard issues readAsked next).mp fails
  · obtain ⟨same, -⟩ | ⟨same, -⟩ := kind_transport_cases e
    · exact .inr (.inl same)
    · exact .inr (.inr same)
  · exact .inl rejects.isPeerFault

/-- A session never fails because the challenge cannot be read back. -/
theorem cause_ne_challenge {left : Stream} (fault : Header.Fault)
    (failed : ((gate.handle next signal).play s).2 = some (.failed failure, left)) :
    failure.cause ≠ .gate (.challenge fault) := by
  intro caused
  cases fails_of_failed failed with
  | unissued unmade => cases issues.symm.trans unmade
  | broken => cases caused
  | rejected _ made fails =>
    cases issues.symm.trans made
    have refused := verdict_eq_refused fails caused
    rw [standard] at refused
    exact standard_ne_challenge readAsked fault refused

end

/-! ## Blame -/

/-- What each kind of failure says of a session, and what is logged as an error. -/
structure Blame (gate : Gate) (signal : Signal) (s : Stream) (challenge : String) (asked : Header)
    (played : Trace × Option (Outcome × Stream)) : Prop where
  /-- The gate logs no error before it hands the stream over, if it ever does. -/
  calm : Calm (ownPart played.1)
  calm_end : Calm (farewells s.now played.2)
  not_internal : ¬ FailsAs .internal played
  not_notFound : ¬ FailsAs .notFound played
  /-- The challenge can always be read back. -/
  readable : ∀ failure left fault, played.2 = some (.failed failure, left) →
    failure.cause ≠ .gate (.challenge fault)
  protocol : FailsAs .protocol played ↔ ∃ octets, Submitted gate signal s octets ∧
    ∃ fault, parse (Utf8.toStringLossy octets) = .error fault
  challengeMismatch : FailsAs .challengeMismatch played ↔ ∃ octets, Submitted gate signal s octets ∧
    ∃ answer, parse (Utf8.toStringLossy octets) = .ok answer ∧ answer.Differs asked
  verificationFailed : FailsAs .verificationFailed played ↔ ∃ octets, Submitted gate signal s octets ∧
    ∃ answer, parse (Utf8.toStringLossy octets) = .ok answer ∧ ¬ answer.Differs asked ∧
      leadingZeros (Sha256.digest (Utf8.ofString answer.render)) < answer.bits.toNat
  timeout : FailsAs .timeout played ↔ ∃ e, Breaks gate signal s e ∧
    (e.kind = .timedOut ∨ e.kind = .wouldBlock)
  transport : FailsAs .transport played ↔ ∃ e, Breaks gate signal s e ∧
    ¬ (e.kind = .timedOut ∨ e.kind = .wouldBlock)
  peerFault : (∃ kind, kind.isPeerFault = true ∧ FailsAs kind played) ↔
    ∃ octets, Submitted gate signal s octets ∧
      gate.verify (Utf8.toStringLossy octets) challenge ≠ .judged .valid

theorem blame (signal : Signal) (s : Stream) {issued : Issued} (standard : gate.verify = .standard)
    (issues : gate.config.issue gate.draw gate.generate = .ok issued)
    (readAsked : parse issued.header = .ok asked) (next : Handler) :
    Blame gate signal s issued.header asked ((gate.handle next signal).play s) := by
  have fromPeer (kind : ErrorKind) (peer : kind.isPeerFault = true) :=
    failsAs_peer_iff signal s standard issues readAsked next peer
  have fromStream (kind : ErrorKind) (foreign : kind.isPeerFault = false) :=
    failsAs_stream_iff signal s standard issues readAsked next foreign
  have not_internal : ¬ FailsAs .internal ((gate.handle next signal).play s) := fun fails => by
    simpa [ErrorKind.isPeerFault] using kind_of_failsAs signal s standard issues readAsked next fails
  obtain ⟨conduct, course⟩ := exists_course gate signal s
  exact {
    calm := by
      rw [course.play_eq, ownPart_play _ course.disciplined.orderly.ne_handOver]
      refine course.calm fun failure ends internal => not_internal ?_
      rw [course.play_eq, ← internal]
      exact failsAs_of_ends ends
    calm_end := calm_farewells fun failure left failed internal =>
      not_internal ⟨failure, left, failed, internal⟩
    not_internal
    not_notFound := fun fails => by
      simpa [ErrorKind.isPeerFault] using kind_of_failsAs signal s standard issues readAsked next fails
    readable := fun failure left fault => cause_ne_challenge signal s standard issues readAsked next fault
    protocol := by simp only [fromPeer .protocol rfl, rejects_protocol_iff]
    challengeMismatch := by
      simp only [fromPeer .challengeMismatch rfl, rejects_challengeMismatch_iff]
    verificationFailed := by
      simp only [fromPeer .verificationFailed rfl, rejects_verificationFailed_iff]
    timeout := by simp only [fromStream .timeout rfl, kind_transport_eq_timeout_iff]
    transport := by simp only [fromStream .transport rfl, kind_transport_eq_transport_iff]
    peerFault := by
      constructor
      · rintro ⟨kind, peer, fails⟩
        obtain ⟨octets, submitted, rejects⟩ := (fromPeer kind peer).mp fails
        obtain ⟨failure, outcome, -⟩ := rejects.exists_failed readAsked
        exact ⟨octets, submitted, standard ▸ (exists_failed_iff _ _).mp ⟨failure, outcome⟩⟩
      · rintro ⟨octets, submitted, bad⟩
        obtain ⟨failure, outcome⟩ := (exists_failed_iff _ _).mpr bad
        have rejects := rejects_of_failed readAsked (standard ▸ outcome)
        exact ⟨failure.kind, rejects.isPeerFault, (fromPeer _ rejects.isPeerFault).mpr
          ⟨octets, submitted, rejects⟩⟩ }

theorem make?_eq_ok_iff {config : GateConfig} {generate : Generator} {verify : Verifier} {draw : Draw} :
    make? config generate verify draw = .ok gate ↔
      config.validate = .ok () ∧ gate = ⟨config, generate, verify, draw⟩ := by
  simp only [make?, bind_eq_ok_iff]
  constructor
  · rintro ⟨_, accepted, same⟩
    cases same
    exact ⟨accepted, rfl⟩
  · rintro ⟨accepted, rfl⟩
    exact ⟨(), accepted, rfl⟩

/-- A gate that is made with a mint issues challenges that can be read back. -/
theorem exists_asked {config : GateConfig} {mint : Mint} {draw : Draw}
    (made : make? config mint.generator .standard draw = .ok gate) :
    ∃ issued asked, gate.verify = .standard ∧
      gate.config.issue gate.draw gate.generate = .ok issued ∧ parse issued.header = .ok asked := by
  obtain ⟨accepted, rfl⟩ := make?_eq_ok_iff.mp made
  have read := mint.parse_text (config.chooseBits draw.bits) draw.token.text
  rw [if_neg draw.token.colon_not_mem_text] at read
  exact ⟨_, _, rfl, GateConfig.issue_eq_ok (GateConfig.validate_eq_ok_iff.mp accepted) mint draw, read⟩

/-- **Who is to blame.**  A gate with acceptable settings and a mint, that goes by the digest, never fails
for a reason of its own, and never logs an error, whatever its peer does and whoever stands behind it.
The kind of a failure tells its cause, so the peer is to blame exactly if it has submitted a result that
is no good. -/
theorem serve_blames {config : GateConfig} {mint : Mint} {draw : Draw}
    (made : make? config mint.generator .standard draw = .ok gate) (next : Handler) (signal : Signal)
    (s : Stream) :
    ∃ issued asked, gate.config.issue gate.draw gate.generate = .ok issued ∧
      parse issued.header = .ok asked ∧
      (∀ result fault, gate.verify result issued.header ≠ .refused (.challenge fault)) ∧
      ((gate.serve next signal).play s).1 = ((gate.handle next signal).play s).1 ++
        farewells s.now ((gate.handle next signal).play s).2 ∧
      (Calms (next signal) → Calm ((gate.serve next signal).play s).1) ∧
      Blame gate signal s issued.header asked ((gate.handle next signal).play s) := by
  obtain ⟨issued, asked, standard, issues, readAsked⟩ := exists_asked made
  have blame := blame signal s standard issues readAsked next
  refine ⟨issued, asked, issues, readAsked, ?_, ?_, ?_, blame⟩
  · intro result fault
    rw [standard]
    exact standard_ne_challenge readAsked fault
  · rw [play_serve]
  · intro calms
    -- The trace is the gate's own part, what the next program does, and the farewell.
    obtain ⟨conduct, course⟩ := exists_course gate signal s
    have own := blame.calm
    rw [course.play_eq, ownPart_play _ course.disciplined.orderly.ne_handOver] at own
    have whole := conduct.calm_play own calms
    rw [← course.play_eq] at whole
    rw [play_serve]
    exact calm_append.mpr ⟨whole, blame.calm_end⟩

def mintedGate : Gate :=
  ⟨.standard, GateConfig.widestMint.generator, .standard, GateConfig.widestDraw⟩

/-- A peer that sends no header for a result. -/
def junkPeer : Stream := .ofSteps [⟨.data [0], 0, 0⟩, ⟨.data [33], 0, 1⟩] .ending .free

def junkAsking : Asking mintedGate junkPeer where
  greeted := 0
  opening := [0]
  opened := _
  issued := _
  words := _
  asked := _
  greets := rfl
  opens := rfl
  issues := rfl
  tells := play_say_free rfl (Header.ofString_render_ne_nil _)

/-- The peer is to blame for its result, and nobody for a first message that cannot be read in time. -/
theorem serve_blames_junk :
    make? .standard GateConfig.widestMint.generator .standard GateConfig.widestDraw = .ok mintedGate ∧
      FailsAs .protocol ((mintedGate.handle (fun _ => pure ()) .never).play junkPeer) ∧
      Calm ((mintedGate.serve (fun _ => pure ()) .never).play junkPeer).1 ∧
      FailsAs .timeout ((mintedGate.handle (fun _ => pure ()) .never).play
        (.ofSteps [⟨.failure .wouldBlock, 0, 0⟩] .ending .free)) := by
  have made : make? .standard GateConfig.widestMint.generator .standard GateConfig.widestDraw =
      .ok mintedGate := rfl
  have finds : junkAsking.Finds .never (.ok [33]) := {
    notStopped := rfl
    greets_before_signal := by simp [NotAfter, Signal.moment?]
    exists_answered := ⟨0, _, rfl, by simp [NotAfter], rfl⟩ }
  obtain ⟨issued, asked, -, -, -, -, calm, blame⟩ :=
    serve_blames made (fun _ => pure ()) .never junkPeer
  obtain ⟨_, _, -, -, -, -, -, others⟩ := serve_blames made (fun _ => pure ()) .never
    (.ofSteps [⟨.failure .wouldBlock, 0, 0⟩] .ending .free)
  have submitted : Submitted mintedGate .never junkPeer [33] :=
    ⟨List.cons_ne_nil _ _, junkAsking, finds⟩
  refine ⟨made, blame.protocol.mpr ⟨[33], submitted, .malformed "!", rfl⟩, calm (calms_pure ()),
    others.timeout.mpr ⟨.ofKind .wouldBlock, ?_, .inr rfl⟩⟩
  exact .opening rfl rfl (by simp [NotAfter, Signal.moment?]) rfl

end Hashgate.Gate

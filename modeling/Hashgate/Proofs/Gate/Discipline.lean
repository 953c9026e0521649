import Hashgate.Proofs.Gate.Course
import Hashgate.Proofs.Reading

/-! # What a gate asks its verifier

On all ways through a gate a result is judged at most once, and only against the challenge that has
been written.  A session that stays with the gate does not end as passed.  Both are proved stage by
stage, from the last one back: what a stage puts before the next is quiet, so it can change only what
has been written by the time of a judgement.

* `Orderly` — a trace of the gate's own with at most one judgement.
* `Disciplined` — an orderly conduct that does not pass of its own.
* `Course.disciplined` — all courses are.
-/

namespace Hashgate

/-- A challenge is issued under acceptable settings, and is what the generator makes. -/
theorem GateConfig.issue_eq_ok_iff {config : GateConfig} {draw : Draw} {generate : Generator}
    {issued : Issued} :
    config.issue draw generate = .ok issued ↔
      config.validate = .ok () ∧
        ∃ header, generate (config.chooseBits draw.bits) draw.token.text = .ok header ∧
          issued = ⟨header, config.chooseBits draw.bits, draw.token.text⟩ := by
  simp only [issue, bind_eq_ok_iff]
  constructor
  · rintro ⟨_, accepted, header, generated, same⟩
    cases same
    exact ⟨accepted, header, generated, rfl⟩
  · rintro ⟨accepted, header, generated, rfl⟩
    exact ⟨(), accepted, header, generated, rfl⟩

namespace Gate

open Session

variable {gate : Gate} {signal : Signal} {challenge : String} {s left : Stream} {conduct : Conduct}
  {trace : Trace} {fits fitting : List UInt8 → String → Prop}

/-! ## Orderly traces -/

/-- An act that calls on neither the verifier nor the next program. -/
def IsQuiet : Act → Prop
  | .judge _ _ => False
  | .handOver => False
  | _ => True

def Quiet (trace : Trace) : Prop := ∀ mark ∈ trace, IsQuiet mark.2

theorem quiet_of_spoken (spoken : Spoken s trace left) : Quiet trace := by
  intro mark member
  have speech := (spoken.acts mark member).2
  generalize mark.2 = act at speech ⊢
  cases act <;> trivial

theorem Quiet.append {later : Trace} (quiet : Quiet trace) (more : Quiet later) :
    Quiet (trace ++ later) := by
  intro mark member
  cases List.mem_append.mp member with
  | inl early => exact quiet mark early
  | inr late => exact more mark late

/-- A trace in which at most one result is judged, and the octets written before that and the
challenge that it is judged against fit together. -/
inductive Orderly (fits : List UInt8 → String → Prop) : Trace → Prop
  | quiet {trace : Trace} : Quiet trace → Orderly fits trace
  | judged {before after : Trace} {moment : Nat} {result challenge : String} : Quiet before →
      fits (written before) challenge → Quiet after →
      Orderly fits (before ++ (moment, .judge result challenge) :: after)

theorem Orderly.append {later : Trace} (orderly : Orderly fits trace) (quiet : Quiet later) :
    Orderly fits (trace ++ later) := by
  cases orderly with
  | quiet quietly => exact .quiet (quietly.append quiet)
  | judged before fit after =>
    rw [List.append_assoc, List.cons_append]
    exact .judged before fit (after.append quiet)

theorem Orderly.prepend {earlier : Trace} (orderly : Orderly fits trace) (quiet : Quiet earlier)
    (still : ∀ octets challenge, fits octets challenge → fitting (written earlier ++ octets) challenge) :
    Orderly fitting (earlier ++ trace) := by
  cases orderly with
  | quiet quietly => exact .quiet (quiet.append quietly)
  | judged before fit after =>
    rw [← List.append_assoc]
    refine .judged (quiet.append before) ?_ after
    rw [written_append]
    exact still _ _ fit

theorem Orderly.ne_handOver (orderly : Orderly fits trace) : ∀ mark ∈ trace, mark.2 ≠ .handOver := by
  have quiet_ne {act : Act} (quiet : IsQuiet act) : act ≠ .handOver := by
    rintro rfl
    exact quiet
  intro mark member
  cases orderly with
  | quiet quietly => exact quiet_ne (quietly mark member)
  | judged before _ after =>
    cases List.mem_append.mp member with
    | inl early => exact quiet_ne (before mark early)
    | inr late =>
      cases late with
      | head => nofun
      | tail _ late => exact quiet_ne (after mark late)

/-! ## Disciplined conducts -/

/-- A conduct that is orderly, and that does not end as passed if it stays with the gate. -/
structure Disciplined (fits : List UInt8 → String → Prop) (conduct : Conduct) : Prop where
  orderly : Orderly fits conduct.own
  unpassed : ∀ trace outcome left, conduct = .stays (trace, some (outcome, left)) →
    outcome ≠ .passed

theorem disciplined_of_speaks {x : Session Outcome}
    (speaks : Speaks x fun outcome => outcome ≠ .passed) (s : Stream) :
    Disciplined fits (.stays (x.play s)) := by
  obtain ⟨trace, outcome, left, played, notPassed, spoken⟩ := speaks s
  rw [played]
  refine ⟨.quiet (quiet_of_spoken spoken), fun _ _ _ same => ?_⟩
  cases same
  exact notPassed

theorem disciplined_giveUp (s : Stream) : Disciplined fits (.stays (giveUp.play s)) :=
  disciplined_of_speaks (speaks_giveUp.mono fun _ same => same ▸ nofun) s

theorem disciplined_reject (error : GateError) (s : Stream) :
    Disciplined fits (.stays ((reject error).play s)) :=
  disciplined_of_speaks ((speaks_reject error).mono fun _ same => same ▸ nofun) s

theorem disciplined_breakOff (e : IoError) (s : Stream) :
    Disciplined fits (.stays ((breakOff e).play s)) :=
  disciplined_of_speaks ((speaks_breakOff e).mono fun _ same => same ▸ nofun) s

theorem unpassed_after (unpassed : ∀ trace outcome left,
      conduct = .stays (trace, some (outcome, left)) → outcome ≠ .passed) (earlier : Trace) :
    ∀ trace outcome left, conduct.after earlier = .stays (trace, some (outcome, left)) →
      outcome ≠ .passed := by
  intro trace outcome left same
  cases conduct with
  | serves => cases same
  | stays played =>
    obtain ⟨others, result⟩ := played
    cases same
    exact unpassed others outcome left rfl

theorem Disciplined.after {earlier : Trace} (disciplined : Disciplined fits conduct)
    (quiet : Quiet earlier)
    (still : ∀ octets challenge, fits octets challenge → fitting (written earlier ++ octets) challenge) :
    Disciplined fitting (conduct.after earlier) where
  orderly := by
    rw [Conduct.own_after]
    exact disciplined.orderly.prepend quiet still
  unpassed := unpassed_after disciplined.unpassed earlier

theorem quiet_concluded (submission : Submission) (s : Stream) :
    Quiet (concluded submission s).own ∧ ∀ trace outcome left,
      concluded submission s = .stays (trace, some (outcome, left)) → outcome ≠ .passed := by
  obtain ⟨header, -, served⟩ | ⟨stays, speaks⟩ := concluded_cases submission s
  · rw [served]
    refine ⟨by simp [Quiet, IsQuiet], fun _ _ _ same => ?_⟩
    cases same
  · obtain ⟨trace, outcome, left, played, notPassed, spoken⟩ := speaks s
    rw [stays, played]
    refine ⟨quiet_of_spoken spoken, fun _ _ _ same => ?_⟩
    cases same
    exact notPassed

/-! ## Stage by stage -/

theorem Submits.orderly {verify : Verifier} {submission : Submission}
    (submits : Submits verify challenge s trace submission left) :
    Orderly (fun octets asked => octets = [] ∧ asked = challenge) trace := by
  cases submits with
  | unread => exact .quiet (by simp [Quiet, IsQuiet])
  | ended => exact .quiet (by simp [Quiet, IsQuiet])
  | @judged octets result _ taken nonempty equal =>
    -- Reading and logging come before the judgement, and only the verifier's own entries after it.
    change Orderly _ ([_, _] ++ (left.now, .judge result challenge) :: _)
    refine .judged (by simp [Quiet, IsQuiet]) ⟨by simp [Act.octets], rfl⟩ ?_
    cases verify result challenge <;> simp [Quiet, IsQuiet]

theorem Awaits.disciplined (awaits : Awaits gate challenge signal s conduct) :
    Disciplined (fun octets asked => octets = [] ∧ asked = challenge) conduct := by
  cases awaits with
  | expired => exact (disciplined_giveUp _).after (by simp [Quiet, IsQuiet]) fun _ _ => False.elim
  | interrupted => exact (disciplined_giveUp _).after (by simp [Quiet, IsQuiet]) fun _ _ => False.elim
  | @answered _ trace submission left ready inTime submits =>
    obtain ⟨quiet, unpassed⟩ := quiet_concluded submission left
    refine ⟨?_, unpassed_after unpassed _⟩
    rw [Conduct.own_after]
    have lending : Quiet [(s.now, .lend)] := by simp [Quiet, IsQuiet]
    have giving : Quiet [(left.now, .giveBack)] := by simp [Quiet, IsQuiet]
    exact ((submits.orderly.prepend lending (by simp [Act.octets])).append giving).append quiet

def Fits (gate : Gate) (octets : List UInt8) (challenge : String) : Prop :=
  octets = Utf8.ofString challenge ∧
    gate.generate (gate.config.chooseBits gate.draw.bits) gate.draw.token.text = .ok challenge

theorem Exchanges.disciplined (exchanges : Exchanges gate signal s conduct) :
    Disciplined (Fits gate) conduct := by
  cases exchanges with
  | unissued =>
    exact (disciplined_reject _ s).after (by simp [Quiet, IsQuiet]) fun _ _ => False.elim
  | @unsaid issued trace e left _ tells =>
    have spoken := quiet_of_spoken (saying_of_play tells).spoken
    have issuing : Quiet [(s.now, .issue), (s.now, .log issued.entry)] := by simp [Quiet, IsQuiet]
    exact (disciplined_breakOff e left).after (issuing.append spoken) fun _ _ => False.elim
  | @said issued trace left conduct issues tells awaits =>
    have saying := saying_of_play tells
    have spoken := quiet_of_spoken saying.spoken
    have issuing : Quiet [(s.now, .issue), (s.now, .log issued.entry)] := by simp [Quiet, IsQuiet]
    obtain ⟨_, challenge, generated, rfl⟩ := GateConfig.issue_eq_ok_iff.mp issues
    -- Nothing is written before the challenge, and nothing between it and the judgement.
    apply awaits.disciplined.after (issuing.append spoken)
    rintro octets asked ⟨rfl, rfl⟩
    exact ⟨by simp [Act.octets, (saying.complete.mp rfl).1], generated⟩

theorem Course.disciplined (course : Course gate signal s conduct) :
    Disciplined (Fits gate) conduct := by
  cases course with
  | stopped => exact disciplined_giveUp s
  | stalled =>
    refine ⟨.quiet (by simp [Quiet]), fun _ _ _ same => ?_⟩
    cases same
  | interrupted => exact disciplined_giveUp _
  | unheard =>
    exact (disciplined_reject _ _).after (by simp [Quiet, IsQuiet]) fun _ _ => False.elim
  | heard notStopped greets inTime taken exchanges =>
    exact exchanges.disciplined.after (by simp [Quiet, IsQuiet]) (by simp [Act.octets])

end Gate

end Hashgate

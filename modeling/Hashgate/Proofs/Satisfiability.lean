import Hashgate.Config.Server
import Hashgate.Proofs.Digest.Expansion
import Hashgate.Proofs.Gate.Admission
import Hashgate.Proofs.Issuing
import Hashgate.Proofs.Judging
import Hashgate.Proofs.Mining

/-! # Challenges that nobody can solve

A digest has 256 bits.  A challenge may ask for more, and then no result is good, mining does not begin,
and a session that issues such a challenge lets nobody past.  Settings are accepted all the same: what
keeps a gate from such challenges is a complexity of 257 or less, and nothing else does.

* `mine_eq_unsatisfiable_iff` — the challenges that mining refuses to begin with.
* `not_isSolved_of_many` — no digest has so many zeros.
* `GateConfig.CanIssue`, `exists_canIssue` — which challenges can be issued under some settings.
* `Gate.exists_stays` — a session with such a challenge stays with the gate.
* `satisfiable_decides` — which settings can issue such challenges, and what becomes of these.
-/

namespace Hashgate

open Header (parse)

variable {text challenge result : String} {h asked : Header}

/-! ## Mining -/

theorem Header.mine_eq_unsatisfiable_iff {bits : UInt32} :
    h.mine = .refused (.unsatisfiable bits) ↔ 256 < h.bits.toNat ∧ bits = h.bits := by
  by_cases many : 256 < h.bits.toNat
  · rw [mine, digestBits, if_pos many]
    simp [many, eq_comm]
  · rw [mine, digestBits, if_neg many]
    cases h.firstSolved? counterCount <;> simp [many]

/-- Mining refuses to begin with headers that ask for more bits than a digest has. -/
theorem mine_eq_unsatisfiable_iff {bits : UInt32} :
    mine text = .refused (.unsatisfiable bits) ↔
      ∃ h, parse text = .ok h ∧ 256 < h.bits.toNat ∧ bits = h.bits := by
  unfold mine
  cases parse text with
  | error fault => simp
  | ok h => simp [Header.mine_eq_unsatisfiable_iff]

/-! ## Judging -/

theorem Sha256.length_digest (message : List UInt8) : (Sha256.digest message).length = 32 := rfl

theorem not_isSolved_of_many (many : 256 < h.bits.toNat) : h.isSolved ≠ true := by
  intro solved
  have enough := Header.isSolved_iff.mp solved
  have most := leadingZeros_le (Sha256.digest (Utf8.ofString h.render))
  rw [Sha256.length_digest] at most
  omega

/-- No result at all is good for a challenge that asks for too much. -/
theorem not_isValid_of_many (read : parse challenge = .ok asked) (many : 256 < asked.bits.toNat)
    (result : String) :
    ¬ ∃ judgement, judge result challenge = .ok judgement ∧ judgement.isValid = true := by
  rintro ⟨judgement, judged, valid⟩
  obtain ⟨answer, asks, -, readAsked, same, rfl⟩ := judge_eq_ok_iff.mp judged
  rw [read] at readAsked
  cases readAsked
  have bits : answer.bits = asked.bits := by rw [same]
  exact not_isSolved_of_many (bits ▸ many) (Header.isValid_judge_iff.mp valid)

/-! ## Issuing -/

/-- A challenge that a gate issues under some settings, by one draw or another. -/
def GateConfig.CanIssue (config : GateConfig) (challenge : String) : Prop :=
  ∃ (mint : Mint) (draw : Draw) (issued : Issued),
    config.issue draw mint.generator = .ok issued ∧ issued.header = challenge

namespace GateConfig

variable {config : GateConfig}

/-- Every challenge that can be issued asks for a number of bits in the range. -/
theorem CanIssue.exists_parse (canIssue : config.CanIssue challenge) :
    ∃ h, parse challenge = .ok h ∧ 10 ≤ h.bits.toNat ∧ h.bits.toNat < config.complexity.toNat := by
  obtain ⟨mint, draw, issued, issuing, rfl⟩ := canIssue
  obtain ⟨accepted, _, generated, rfl⟩ := issue_eq_ok_iff.mp issuing
  have sensible := validate_eq_ok_iff.mp accepted
  have read := mint.parse_text (config.chooseBits draw.bits) draw.token.text
  rw [if_neg draw.token.colon_not_mem_text] at read
  cases generated
  exact ⟨_, read, chooseBits_bounds sensible draw.bits⟩

/-- For every number of bits in the range there is a challenge, whatever mint it comes from. -/
theorem exists_canIssue (sensible : ¬ config.Senseless) {n : Nat} (least : 10 ≤ n)
    (less : n < config.complexity.toNat) (mint : Mint) (token : Token) :
    ∃ challenge h, config.CanIssue challenge ∧ parse challenge = .ok h ∧ h.bits.toNat = n := by
  obtain ⟨selector, chosen⟩ := exists_chooseBits_eq least less
  have read := mint.parse_text (config.chooseBits selector) token.text
  rw [if_neg token.colon_not_mem_text] at read
  exact ⟨_, _, ⟨mint, ⟨selector, token⟩, _, issue_eq_ok sensible mint ⟨selector, token⟩, rfl⟩, read,
    chosen⟩

theorem satisfiable_iff (sensible : ¬ config.Senseless) :
    (∀ challenge, config.CanIssue challenge → ∀ bits, mine challenge ≠ .refused (.unsatisfiable bits)) ↔
      config.complexity.toNat ≤ 257 := by
  constructor
  · intro satisfiable
    apply Nat.le_of_not_lt
    intro large
    -- The hardest challenge asks for one bit less than the complexity.
    obtain ⟨challenge, h, canIssue, read, hardest⟩ := exists_canIssue sensible
      (n := config.complexity.toNat - 1) (by omega) (by omega) widestMint (Vector.replicate 16 0)
    have many : 256 < h.bits.toNat := by omega
    exact satisfiable challenge canIssue h.bits (mine_eq_unsatisfiable_iff.mpr ⟨h, read, many, rfl⟩)
  · intro small challenge canIssue bits refused
    obtain ⟨h, read, -, less⟩ := canIssue.exists_parse
    obtain ⟨other, readOther, many, -⟩ := mine_eq_unsatisfiable_iff.mp refused
    rw [read] at readOther
    cases readOther
    omega

end GateConfig

/-! ## Sessions -/

/-- A session that issues a challenge for too many bits stays with the gate, whoever stands behind it. -/
theorem Gate.exists_stays {gate : Gate} {issued : Issued} (standard : gate.verify = .standard)
    (issuing : gate.config.issue gate.draw gate.generate = .ok issued)
    (read : parse issued.header = .ok asked) (many : 256 < asked.bits.toNat) (signal : Signal)
    (s : Stream) : ∃ played, Course gate signal s (.stays played) := by
  obtain ⟨conduct, course⟩ := exists_course gate signal s
  cases conduct with
  | stays played => exact ⟨played, course⟩
  | serves own left =>
    obtain ⟨passage, -⟩ := course.exists_passage
    obtain ⟨-, challenge, generated, rfl⟩ := GateConfig.issue_eq_ok_iff.mp issuing
    have same : passage.challenge = challenge :=
      Except.ok.inj (passage.generated.symm.trans generated)
    have valid := passage.valid
    rw [standard, same, Verifier.standard_eq_valid_iff] at valid
    obtain ⟨answer, asks, -, readAsked, alike, solved⟩ := valid
    cases Except.ok.inj (read.symm.trans readAsked)
    have bits : answer.bits = asked.bits := by rw [alike]
    exact absurd solved (not_isSolved_of_many (bits ▸ many))

/-! ## Settings of a server -/

theorem ServerConfig.validate_gate_of_ofLookup {lookup : Lookup} {config : ServerConfig}
    (accepted : ofLookup lookup = .ok config) : config.gate.validate = .ok () := by
  simp only [ofLookup, bind_eq_ok_iff] at accepted
  obtain ⟨complexity, -, waitMillis, -, ⟨⟩, valid, same⟩ := accepted
  cases same
  unfold validate at valid
  split at valid
  · cases valid
  · exact mapError_eq_ok_iff.mp valid

/-- **A gate can issue challenges that nobody can solve exactly if its complexity is above 257.**  Under
accepted settings the challenges that can be issued are those for the bits in the range, and mining refuses
to begin with none of them exactly if the complexity is 257 or less.  No result of a challenge for more
than 256 bits is good, so a session that issues one never hands its stream over and never ends as passed.
The settings that a server takes from its environment are accepted ones, and all this holds of them. -/
theorem satisfiable_decides :
    (∀ config : GateConfig, config.validate = .ok () →
      (∀ n, (∃ challenge h, config.CanIssue challenge ∧ parse challenge = .ok h ∧ h.bits.toNat = n) ↔
        10 ≤ n ∧ n < config.complexity.toNat) ∧
      ((∀ challenge, config.CanIssue challenge →
          ∀ bits, mine challenge ≠ .refused (.unsatisfiable bits)) ↔
        config.complexity.toNat ≤ 257)) ∧
    (∀ challenge h, parse challenge = .ok h → 256 < h.bits.toNat → ∀ result,
      ¬ ∃ judgement, judge result challenge = .ok judgement ∧ judgement.isValid = true) ∧
    (∀ (gate : Gate) (issued : Issued) (h : Header), gate.verify = .standard →
      gate.config.issue gate.draw gate.generate = .ok issued → parse issued.header = .ok h →
      256 < h.bits.toNat → ∀ (signal : Signal) (s : Stream), ∃ played,
        (∀ next, (gate.handle next signal).play s = played) ∧
          (∀ trace outcome left, played = (trace, some (outcome, left)) → outcome ≠ .passed) ∧
          ∀ entry ∈ played.1, entry.2 ≠ .handOver) ∧
    ∀ (lookup : Lookup) (config : ServerConfig), ServerConfig.ofLookup lookup = .ok config →
      config.gate.complexity = config.complexity ∧ config.gate.validate = .ok () ∧
      ((∀ challenge, config.gate.CanIssue challenge →
          ∀ bits, mine challenge ≠ .refused (.unsatisfiable bits)) ↔
        config.complexity.toNat ≤ 257) := by
  refine ⟨fun config accepted => ⟨fun n => ⟨?_, ?_⟩, ?_⟩, fun challenge h read many => ?_, ?_, ?_⟩
  · rintro ⟨challenge, h, canIssue, read, rfl⟩
    obtain ⟨other, readOther, bounds⟩ := canIssue.exists_parse
    cases Except.ok.inj (read.symm.trans readOther)
    exact bounds
  · rintro ⟨least, less⟩
    exact GateConfig.exists_canIssue (GateConfig.validate_eq_ok_iff.mp accepted) least less
      GateConfig.widestMint (Vector.replicate 16 0)
  · exact GateConfig.satisfiable_iff (GateConfig.validate_eq_ok_iff.mp accepted)
  · exact not_isValid_of_many read many
  · intro gate issued h standard issuing read many signal s
    obtain ⟨played, course⟩ := Gate.exists_stays standard issuing read many signal s
    obtain ⟨orderly, unpassed⟩ := course.disciplined
    refine ⟨played, fun next => course.play_eq next, fun trace outcome left same => ?_,
      orderly.ne_handOver⟩
    exact unpassed trace outcome left (congrArg Gate.Conduct.stays same)
  · intro lookup config accepted
    have valid := ServerConfig.validate_gate_of_ofLookup accepted
    exact ⟨rfl, valid, GateConfig.satisfiable_iff (GateConfig.validate_eq_ok_iff.mp valid)⟩

/-- A challenge for one bit too many. -/
def hopelessChallenge : String := "1:257:2402291200:r::n:MA=="

def hopelessGate : Gate := { Gate.easyGate with generate := fun _ _ => .ok hopelessChallenge }

/-- A server takes a complexity of 258, and can then issue challenges that nobody can solve. -/
theorem satisfiable_decides_hopeless :
    (∃ config, ServerConfig.ofLookup (fun name => if name = "COMPLEXITY" then some "258" else none) =
        .ok config ∧ config.complexity = 258 ∧ ∃ challenge bits,
          config.gate.CanIssue challenge ∧ mine challenge = .refused (.unsatisfiable bits)) ∧
      (¬ ∃ judgement, judge hopelessChallenge hopelessChallenge = .ok judgement ∧
        judgement.isValid = true) ∧
      ∀ next trace outcome left, (hopelessGate.handle next .never).play Gate.easyPeer =
        (trace, some (outcome, left)) → outcome ≠ .passed := by
  obtain ⟨-, judging, sessions, servers⟩ := satisfiable_decides
  have read : parse hopelessChallenge = .ok ⟨1, 257, "2402291200", "r", "n", 0⟩ := rfl
  have accepted : ServerConfig.ofLookup
      (fun name => if name = "COMPLEXITY" then some "258" else none) =
        .ok { ServerConfig.standard with complexity := 258 } := by decide
  refine ⟨⟨_, accepted, rfl, ?_⟩, judging _ _ read (by decide) _, ?_⟩
  · obtain ⟨-, -, satisfiable⟩ := servers _ _ accepted
    by_contra solvable
    have small := satisfiable.mp fun challenge canIssue bits refused =>
      solvable ⟨challenge, bits, canIssue, refused⟩
    revert small
    decide
  · obtain ⟨played, stays, unpassed, -⟩ := sessions hopelessGate _ _ rfl rfl read (by decide) .never
      Gate.easyPeer
    intro next trace outcome left same
    exact unpassed trace outcome left ((stays next).symm.trans same)

end Hashgate

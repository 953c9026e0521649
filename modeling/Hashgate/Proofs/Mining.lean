import Hashgate.Proofs.Header.RoundTrip
import Hashgate.Proofs.Solution

/-! # What mining finds

Mining is a loop without a bound: it tries a header and goes on to the next counter, after the
greatest one to the least.  The loop is stated here as it stands, and the number of turns plays no
part in it.  Since the counters come round after `counterCount` turns, and none is met twice before
that, the loop ends exactly if some counter at all solves the header, and it ends at the first one.

* `Searches` — the loop, turn by turn.
* `after` — the header that the loop tries at some turn.
* `exists_after_eq`, `eq_of_counter_after_eq` — every counter has its turn, and only one.
* `searches_iff`, `exists_searches_iff` — where the loop ends, and whether it does.
* `firstSolved?_eq_some_iff` — a bound on the turns takes nothing away.
* `judge_render_after`, `judge_of_mine` — what is found is judged to be good.
* `mine_decides` — what comes of mining a text.
-/

namespace Hashgate.Header

variable {text : String} {h r : Header}

/-! ## The loop -/

/-- The loop of mining, which ends at a header that is solved. -/
inductive Searches : Header → Header → Prop
  | here {h : Header} : h.isSolved = true → Searches h h
  | next {h r : Header} : h.isSolved = false → Searches h.next r → Searches h r

/-- The header that is tried after some turns. -/
def after (h : Header) (turns : Nat) : Header :=
  { h with counter := Int64.ofInt (h.counter.toInt + turns) }

@[simp] theorem after_zero (h : Header) : h.after 0 = h := by
  simp [after]

theorem next_after (h : Header) (turns : Nat) : h.next.after turns = h.after (turns + 1) := by
  have counters : Int64.ofInt ((h.counter + 1).toInt + turns) =
      Int64.ofInt (h.counter.toInt + (turns + 1 : Nat)) := by
    rw [Int64.ofInt_add, Int64.ofInt_add, Int64.ofInt_toInt, Int64.ofInt_toInt, Nat.add_comm,
      Int.natCast_add, Int64.ofInt_add, ← Int64.add_assoc]
    rfl
  rw [after, next, after, counters]

/-! ## Counters -/

theorem ofInt_eq_ofInt_iff {m n : Int} :
    Int64.ofInt m = Int64.ofInt n ↔ m % counterCount = n % counterCount := by
  rw [← Int64.toInt_inj, Int64.toInt_ofInt, Int64.toInt_ofInt]
  simp only [Int.bmod_def, Int64.size, counterCount, UInt64.size]
  omega

/-- Every counter has its turn before the first one comes round. -/
theorem exists_after_eq (h : Header) (k : Int64) :
    ∃ turns < counterCount, h.after turns = { h with counter := k } := by
  -- The turns are the way from the header's own counter to this one, once round at most.
  refine ⟨((k.toInt - h.counter.toInt) % counterCount).toNat, ?_, ?_⟩
  · simp only [counterCount, UInt64.size]
    omega
  · have comes : Int64.ofInt
        (h.counter.toInt + ((k.toInt - h.counter.toInt) % counterCount).toNat) =
          Int64.ofInt k.toInt := by
      rw [ofInt_eq_ofInt_iff]
      simp only [counterCount, UInt64.size]
      omega
    rw [after, comes, Int64.ofInt_toInt]

/-- No counter has two turns before the first one comes round. -/
theorem eq_of_counter_after_eq {i j : Nat} (early : i < counterCount) (soon : j < counterCount)
    (same : (h.after i).counter = (h.after j).counter) : i = j := by
  have remainders := ofInt_eq_ofInt_iff.mp same
  simp only [counterCount, UInt64.size] at early soon remainders
  omega

/-- After all counters the first one comes round. -/
theorem after_add_counterCount (h : Header) (turns : Nat) :
    h.after (turns + counterCount) = h.after turns := by
  have round : Int64.ofInt (h.counter.toInt + (turns + counterCount : Nat)) =
      Int64.ofInt (h.counter.toInt + turns) := by
    rw [ofInt_eq_ofInt_iff]
    simp only [counterCount, UInt64.size]
    omega
  rw [after, round, after]

/-! ## The end of the loop -/

/-- A header is solved after some turns, and none before. -/
structure FirstSolved (h : Header) (turns : Nat) : Prop where
  solved : (h.after turns).isSolved = true
  first : ∀ i < turns, (h.after i).isSolved = false

theorem searches_of_firstSolved {turns : Nat} (first : FirstSolved h turns) :
    Searches h (h.after turns) := by
  -- The induction is on the turns, for all headers: the next header has one turn less before it.
  induction turns generalizing h with
  | zero =>
    rw [after_zero]
    exact .here (by simpa using first.solved)
  | succ turns ih =>
    have unsolved := first.first 0 (Nat.zero_lt_succ turns)
    rw [after_zero] at unsolved
    rw [← next_after]
    refine .next unsolved (ih ⟨?_, fun i earlier => ?_⟩)
    · rw [next_after]
      exact first.solved
    · rw [next_after]
      exact first.first (i + 1) (Nat.succ_lt_succ earlier)

theorem exists_firstSolved_of_searches (searches : Searches h r) :
    ∃ turns, r = h.after turns ∧ FirstSolved h turns := by
  induction searches with
  | @here h solved =>
    refine ⟨0, (after_zero h).symm, by simpa using solved, fun i earlier => ?_⟩
    cases earlier
  | @next h r unsolved _ ih =>
    obtain ⟨turns, rfl, solved, first⟩ := ih
    refine ⟨turns + 1, next_after h turns, ?_, fun i earlier => ?_⟩
    · rw [← next_after]
      exact solved
    · cases i with
      | zero => rw [after_zero]; exact unsolved
      | succ i =>
        rw [← next_after]
        exact first i (Nat.lt_of_succ_lt_succ earlier)

theorem searches_iff : Searches h r ↔ ∃ turns, r = h.after turns ∧ FirstSolved h turns := by
  constructor
  · exact exists_firstSolved_of_searches
  · rintro ⟨turns, rfl, first⟩
    exact searches_of_firstSolved first

/-- The first header that is solved comes before the counters come round. -/
theorem FirstSolved.lt {turns : Nat} (first : FirstSolved h turns) : turns < counterCount := by
  apply Nat.lt_of_not_le
  intro late
  obtain ⟨earlier, rfl⟩ : ∃ earlier, turns = earlier + counterCount :=
    ⟨turns - counterCount, (Nat.sub_add_cancel late).symm⟩
  -- One round earlier the counter was the same, and the header was not solved.
  have unsolved := first.first earlier (Nat.lt_add_of_pos_right (by decide))
  rw [← after_add_counterCount, first.solved] at unsolved
  cases unsolved

/-! ## Mining -/

theorem searches_of_firstSolved? {fuel : Nat} (found : h.firstSolved? fuel = some r) :
    Searches h r := by
  induction fuel generalizing h with
  | zero => cases found
  | succ fuel ih =>
    rw [firstSolved?] at found
    split at found
    · next solved =>
      cases found
      exact .here solved
    · next unsolved => exact .next (by simpa using unsolved) (ih found)

theorem not_solved_of_firstSolved? {fuel turns : Nat} (absent : h.firstSolved? fuel = none)
    (within : turns < fuel) : (h.after turns).isSolved = false := by
  induction fuel generalizing h turns with
  | zero => cases within
  | succ fuel ih =>
    rw [firstSolved?] at absent
    split at absent
    · cases absent
    · next unsolved =>
      cases turns with
      | zero => simpa using unsolved
      | succ turns =>
        rw [← next_after]
        exact ih absent (Nat.lt_of_succ_lt_succ within)

theorem Searches.unique {s : Header} (searches : Searches h r) (other : Searches h s) : r = s := by
  induction searches with
  | here solved =>
    cases other with
    | here => rfl
    | next unsolved => simp [solved] at unsolved
  | next unsolved _ ih =>
    cases other with
    | here solved => simp [solved] at unsolved
    | next _ later => exact ih later

/-- The loop has as many turns as it needs. -/
theorem firstSolved?_eq_some_iff : h.firstSolved? counterCount = some r ↔ Searches h r := by
  constructor
  · exact searches_of_firstSolved?
  · intro searches
    obtain ⟨turns, rfl, first⟩ := searches_iff.mp searches
    cases found : h.firstSolved? counterCount with
    | none =>
      have unsolved := not_solved_of_firstSolved? found first.lt
      rw [first.solved] at unsolved
      cases unsolved
    | some s => rw [searches.unique (searches_of_firstSolved? found)]

/-- The loop ends if any counter at all solves the header. -/
theorem exists_searches_iff :
    (∃ r, Searches h r) ↔ ∃ k : Int64, ({ h with counter := k } : Header).isSolved = true := by
  constructor
  · rintro ⟨r, searches⟩
    obtain ⟨turns, rfl, first⟩ := searches_iff.mp searches
    exact ⟨_, first.solved⟩
  · rintro ⟨k, solved⟩
    obtain ⟨turns, within, comes⟩ := exists_after_eq h k
    -- A search through all the counters comes to nothing only if this one is no solution either.
    cases found : h.firstSolved? counterCount with
    | none =>
      have unsolved := not_solved_of_firstSolved? found within
      rw [comes, solved] at unsolved
      cases unsolved
    | some r => exact ⟨r, searches_of_firstSolved? found⟩

/-- What mining says of a header that asks for no more bits than there are. -/
theorem mine_eq_found_iff {result : String} (satisfiable : h.bits.toNat ≤ digestBits) :
    h.mine = .found result ↔ ∃ r, Searches h r ∧ result = r.render := by
  rw [mine, if_neg (Nat.not_lt.mpr satisfiable)]
  cases found : h.firstSolved? counterCount with
  | none =>
    simp only [reduceCtorEq, false_iff]
    rintro ⟨r, searches, -⟩
    rw [firstSolved?_eq_some_iff.mpr searches] at found
    cases found
  | some r =>
    have searches := firstSolved?_eq_some_iff.mp found
    constructor
    · intro same
      cases same
      exact ⟨r, searches, rfl⟩
    · rintro ⟨s, other, rfl⟩
      rw [searches.unique other]

theorem mine_eq_endless_iff (satisfiable : h.bits.toNat ≤ digestBits) :
    h.mine = .endless ↔ ¬ ∃ r, Searches h r := by
  rw [mine, if_neg (Nat.not_lt.mpr satisfiable)]
  cases found : h.firstSolved? counterCount with
  | none =>
    simp only [true_iff]
    rintro ⟨r, searches⟩
    rw [firstSolved?_eq_some_iff.mpr searches] at found
    cases found
  | some r =>
    simp only [reduceCtorEq, false_iff]
    exact fun absent => absent ⟨r, searches_of_firstSolved? found⟩

/-! ## Judging what was found -/

theorem WellFormed.after (wellFormed : h.WellFormed) (turns : Nat) : (h.after turns).WellFormed :=
  ⟨wellFormed.colonless, wellFormed.supported, wellFormed.stamp⟩

/-- A header that is solved answers the text that it was made from. -/
theorem judge_render_after {turns : Nat} (read : parse text = .ok h)
    (solved : (h.after turns).isSolved = true) :
    Hashgate.judge (h.after turns).render text = .ok .valid := by
  have rendered := parse_render_of_wellFormed ((wellFormed_of_parse read).after turns)
  exact judge_eq_ok_iff.mpr ⟨_, h, rendered, read, rfl, judge_eq_valid_iff.mpr solved⟩

/-- Whatever is found is good. -/
theorem judge_of_mine {result : String} (found : Hashgate.mine text = .found result) :
    Hashgate.judge result text = .ok .valid := by
  cases read : parse text with
  | error fault =>
    rw [Hashgate.mine, read] at found
    cases found
  | ok h =>
    have mined : Hashgate.mine text = h.mine := by rw [Hashgate.mine, read]
    rw [mined] at found
    by_cases many : digestBits < h.bits.toNat
    · rw [Header.mine, if_pos many] at found
      cases found
    · obtain ⟨r, searches, rfl⟩ := (mine_eq_found_iff (Nat.not_lt.mp many)).mp found
      obtain ⟨turns, rfl, first⟩ := searches_iff.mp searches
      exact judge_render_after read first.solved

end Hashgate.Header

namespace Hashgate

open Header (parse Searches FirstSolved)

/-- **Mining is correct, complete, and takes the first solution.**  It says of a text what is wrong
with it, or of a header that it asks for more bits than a digest has.  On all other headers the loop
ends exactly if some counter passes, and it ends at the first counter that does, counting on from the
header's own.  The result is judged to be good. -/
theorem mine_decides (text : String) :
    (∀ fault, parse text = .error fault → mine text = .refused (.header fault)) ∧
    ∀ h, parse text = .ok h →
      (256 < h.bits.toNat → mine text = .refused (.unsatisfiable h.bits)) ∧
      (h.bits.toNat ≤ 256 →
        ((∃ r, Searches h r) ↔ ∃ k : Int64, hasLeadingZeros
          (Sha256.digest (Utf8.ofString ({ h with counter := k } : Header).render)) h.bits.toNat) ∧
        (mine text = .endless ↔ ¬ ∃ r, Searches h r) ∧
        (∀ result, mine text = .found result ↔ ∃ r, Searches h r ∧ result = r.render) ∧
        (∀ result, mine text = .found result → ∃ turns < counterCount,
          result = (h.after turns).render ∧ FirstSolved h turns ∧
            judge result text = .ok .valid) ∧
        ∀ k : Int64, ∃ turns < counterCount, (h.after turns).counter = k ∧
          ∀ other < counterCount, (h.after other).counter = k → other = turns) := by
  refine ⟨fun fault read => by rw [mine, read], fun h read => ?_⟩
  have mined : mine text = h.mine := by rw [mine, read]
  rw [mined]
  refine ⟨fun many => by rw [Header.mine, digestBits, if_pos many], fun satisfiable => ?_⟩
  refine ⟨Header.exists_searches_iff, Header.mine_eq_endless_iff satisfiable,
    fun result => Header.mine_eq_found_iff satisfiable, fun result found => ?_, fun k => ?_⟩
  · obtain ⟨r, searches, rfl⟩ := (Header.mine_eq_found_iff satisfiable).mp found
    obtain ⟨turns, rfl, first⟩ := Header.searches_iff.mp searches
    exact ⟨turns, first.lt, rfl, first, Header.judge_render_after read first.solved⟩
  · obtain ⟨turns, within, comes⟩ := h.exists_after_eq k
    have counter : (h.after turns).counter = k := by rw [comes]
    refine ⟨turns, within, counter, fun other otherWithin same => ?_⟩
    exact Header.eq_of_counter_after_eq otherWithin within (same.trans counter.symm)

/-- A challenge that asks for eight bits. -/
def easyChallenge : String := "1:8:2402291200:g::n:MA=="

def easyHeader : Header := ⟨1, 8, "2402291200", "g", "n", 0⟩

/-- The first solution of the easy challenge. -/
def easyResult : String := "1:8:2402291200:g::n:NA=="

theorem parse_easyChallenge : parse easyChallenge = .ok easyHeader := rfl

theorem parse_easyResult : parse easyResult = .ok (easyHeader.after 4) := rfl

theorem render_easyHeader_after : (easyHeader.after 4).render = easyResult := by decide +kernel

/-- Four counters are tried in vain. -/
theorem firstSolved_easyHeader : FirstSolved easyHeader 4 where
  solved := by decide +kernel
  first := by decide +kernel

theorem searches_easyHeader : Searches easyHeader (easyHeader.after 4) :=
  Header.searches_of_firstSolved firstSolved_easyHeader

theorem mine_easyChallenge : mine easyChallenge = .found easyResult := by
  rw [mine, parse_easyChallenge]
  exact (Header.mine_eq_found_iff (by decide)).mpr
    ⟨_, searches_easyHeader, render_easyHeader_after.symm⟩

/-- Two texts that are refused, and one that is mined after some turns. -/
theorem mine_decides_easy :
    mine "" = .refused (.header (.malformed "")) ∧
    mine "1:257:2402291200:r::n:MA==" = .refused (.unsatisfiable 257) ∧
    mine easyChallenge = .found easyResult ∧ judge easyResult easyChallenge = .ok .valid := by
  have malformed : parse "" = .error (.malformed "") := rfl
  have tooMany : parse "1:257:2402291200:r::n:MA==" = .ok ⟨1, 257, "2402291200", "r", "n", 0⟩ := rfl
  obtain ⟨-, -, found, judged, -⟩ := ((mine_decides _).2 _ parse_easyChallenge).2 (by decide)
  have result := (found _).mpr ⟨_, searches_easyHeader, render_easyHeader_after.symm⟩
  obtain ⟨_, _, _, _, valid⟩ := judged _ result
  exact ⟨(mine_decides "").1 _ malformed, ((mine_decides _).2 _ tooMany).1 (by decide), result, valid⟩

end Hashgate

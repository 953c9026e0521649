import Hashgate.Proofs.Challenge
import Hashgate.Proofs.Config.Gate
import Hashgate.Proofs.Gate.Discipline

/-! # Challenges that are issued

Settings that leave nothing to draw are refused before anything is drawn.  Under all other settings every
draw makes a challenge that is read back as what was drawn, and that fits into a read, as do all its
answers.  What makes that so is the token, which has no colon: a challenge for any other resource can be
read back exactly if the resource has none either.

* `Mint.parse_text` — which minted challenges can be read back.
* `Bears` — a challenge that says what was drawn.
* `Fits` — a text that one read takes.
* `issue_wellFormed` — all of this for a gate.
-/

namespace Hashgate

/-! ## Resources -/

/-- Nothing but a colon in the resource can keep a minted challenge from being read back. -/
theorem Mint.parse_text (mint : Mint) (bits : UInt32) (resource : String) :
    Header.parse (mint.text bits resource) =
      if ':' ∈ resource.toList then .error (.malformed (mint.text bits resource))
      else .ok (mint.header bits resource) := by
  rw [mint.text_eq]
  by_cases colon : ':' ∈ resource.toList
  · have hasColon : (mint.header bits resource).HasColon := .inr (.inl colon)
    rw [if_pos colon, Header.parse_render_of_hasColon hasColon]
  · rw [if_neg colon, Header.parse_render_of_wellFormed (mint.wellFormed_header bits colon)]

/-! ## What a challenge says -/

/-- A challenge that says of itself what was drawn for it. -/
structure Bears (config : GateConfig) (mint : Mint) (draw : Draw) (issued : Issued) (h : Header) :
    Prop where
  version : h.version = 1
  least : 10 ≤ h.bits.toNat
  less : h.bits.toNat < config.complexity.toNat
  bits : h.bits = issued.bits
  drawn : issued.bits = config.chooseBits draw.bits
  resource : h.resource = issued.resource
  token : issued.resource = draw.token.text
  date : h.date = String.ofList mint.minute.stamp
  random : h.random = String.ofList (Base64.encode mint.random.toList)
  counter : h.counter = mint.counter

/-- A text of one octet for each character that one read takes as a whole, whatever follows it. -/
structure Fits (text : String) : Prop where
  ascii : IsAscii text.toList
  length_le : (Utf8.ofString text).length ≤ 1024
  taken : ∀ (s : Stream) (moment writes : Nat),
    Stream.take { s with steps := ⟨.data (Utf8.ofString text), moment, writes⟩ :: s.steps }
      readCapacity = (.ok (Utf8.ofString text), s)

/-- A challenge for a token fits into a read, and so do all its answers. -/
theorem Mint.fits (mint : Mint) (bits : UInt32) (token : Token) (counter : Int64) :
    Fits ({ mint.header bits token.text with counter := counter } : Header).render := by
  have short := mint.length_octets_le bits token counter
  exact {
    ascii := mint.isAscii_render bits token counter
    length_le := short
    taken := fun _ _ _ => if_pos short }

/-! ## Issuing -/

namespace GateConfig

variable {config : GateConfig}

/-- Neither the draw nor the generator has a part in a refusal. -/
theorem exists_issue_eq_error (senseless : config.Senseless) :
    ∃ why, ∀ draw generate, config.issue draw generate = .error (.invalidConfig why) := by
  obtain ⟨why, refused⟩ := exists_validate_eq_error senseless
  refine ⟨why, fun draw generate => ?_⟩
  rw [issue, refused]
  rfl

theorem issue_eq_ok (sensible : ¬ config.Senseless) (mint : Mint) (draw : Draw) :
    config.issue draw mint.generator =
      .ok ⟨mint.text (config.chooseBits draw.bits) draw.token.text, config.chooseBits draw.bits,
        draw.token.text⟩ :=
  issue_eq_ok_iff.mpr ⟨validate_eq_ok_iff.mpr sensible, _, rfl, rfl⟩

theorem bears_header (sensible : ¬ config.Senseless) (mint : Mint) (draw : Draw) :
    Bears config mint draw
      ⟨mint.text (config.chooseBits draw.bits) draw.token.text, config.chooseBits draw.bits,
        draw.token.text⟩
      (mint.header (config.chooseBits draw.bits) draw.token.text) where
  version := rfl
  least := (chooseBits_bounds sensible draw.bits).1
  less := (chooseBits_bounds sensible draw.bits).2
  bits := rfl
  drawn := rfl
  resource := rfl
  token := rfl
  date := rfl
  random := rfl
  counter := rfl

/-- **Every challenge that is issued is well formed and fits into a read.**  Settings are refused, without
a draw, exactly if they are senseless.  Under all others each draw makes a challenge that says what was
drawn, and every number of bits in the range and every date that a reader takes is drawn by some.  The
challenge and whatever answers it with another counter fit into a read.  For other resources than tokens
it is the colon that decides. -/
theorem issue_wellFormed (config : GateConfig) :
    (config.complexity.toNat ≤ 10 ∨ config.wait = 0 →
      ∃ why, ∀ draw generate, config.issue draw generate = .error (.invalidConfig why)) ∧
    (¬ (config.complexity.toNat ≤ 10 ∨ config.wait = 0) →
      (∀ n, 10 ≤ n → n < config.complexity.toNat →
        ∃ selector, (config.chooseBits selector).toNat = n) ∧
      ∀ (mint : Mint) (draw : Draw), ∃ issued h,
        config.issue draw mint.generator = .ok issued ∧ Header.parse issued.header = .ok h ∧
          Bears config mint draw issued h ∧ issued.header = h.render ∧ Fits issued.header ∧
          ∀ counter, Fits ({ h with counter := counter } : Header).render) ∧
    (∀ date, (Minute.ofStamp? date).isSome = true → ∃ minute : Minute, minute.stamp = date) ∧
    ∀ (mint : Mint) (bits : UInt32) (resource : String), ∃ text,
      mint.generator bits resource = .ok text ∧
        Header.parse text =
          if ':' ∈ resource.toList then .error (.malformed text)
          else .ok (mint.header bits resource) := by
  refine ⟨exists_issue_eq_error, fun sensible => ⟨?_, fun mint draw => ?_⟩, fun date accepted => ?_,
    fun mint bits resource => ?_⟩
  · exact fun _ least less => exists_chooseBits_eq least less
  · have fits := mint.fits (config.chooseBits draw.bits) draw.token
    have read := mint.parse_text (config.chooseBits draw.bits) draw.token.text
    rw [if_neg draw.token.colon_not_mem_text] at read
    exact ⟨_, _, issue_eq_ok sensible mint draw, read, bears_header sensible mint draw, rfl,
      fits mint.counter, fits⟩
  · obtain ⟨minute, read⟩ := Option.isSome_iff_exists.mp accepted
    exact ⟨minute, stamp_of_ofStamp? read⟩
  · exact ⟨_, rfl, mint.parse_text bits resource⟩

/-- The most bits that any settings allow, and the least counter, whose digits are the most. -/
def widest : GateConfig := ⟨4294967295, 1⟩

def widestMint : Mint :=
  ⟨⟨1999, 12, 31, 23, 59, by decide, by decide, by decide, by decide⟩, Vector.replicate 10 255,
    Int64.minValue⟩

def widestDraw : Draw := ⟨4294967284, Vector.replicate 16 255⟩

/-- A challenge whose numbers are as wide as they can be is read back from one read, and settings that
leave one choice too few are refused. -/
theorem issue_wellFormed_widest :
    ¬ (widest.complexity.toNat ≤ 10 ∨ widest.wait = 0) ∧
      (∃ issued h, widest.issue widestDraw widestMint.generator = .ok issued ∧
        Header.parse issued.header = .ok h ∧ h.bits = 4294967294 ∧ h.counter = Int64.minValue ∧
          h.date = "9912312359" ∧ Fits ({ h with counter := -1 } : Header).render) ∧
      (∃ selector, (widest.chooseBits selector).toNat = 4294967294) ∧
      (∃ minute : Minute, minute.stamp = "2402290000".toList) ∧
      ∃ why, ∀ draw generate,
        (⟨10, 1⟩ : GateConfig).issue draw generate = .error (.invalidConfig why) := by
  obtain ⟨-, issues, stamps, -⟩ := issue_wellFormed widest
  have sensible : ¬ (widest.complexity.toNat ≤ 10 ∨ widest.wait = 0) := by decide
  obtain ⟨selects, draws⟩ := issues sensible
  obtain ⟨issued, h, issuing, read, bears, -, -, fits⟩ := draws widestMint widestDraw
  refine ⟨sensible, ⟨issued, h, issuing, read, ?_, bears.counter, ?_, fits (-1)⟩,
    selects 4294967294 (by decide) (by decide), stamps _ (by decide),
    (issue_wellFormed ⟨10, 1⟩).1 (.inl (by decide))⟩
  · rw [bears.bits, bears.drawn]
    decide
  · rw [bears.date]
    decide

end GateConfig

end Hashgate

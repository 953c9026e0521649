import Hashgate.Error.Gate
import Hashgate.Header.Basic

/-! # Solutions

A challenge is solved by a header that is equal to it but for the counter and whose digest has as
many leading zeros as the header asks for.

* `mine` — tries the counters one after the other, from that of the challenge on, and takes the first
  that solves it. After the greatest counter comes the least.
* `judge` — whether a result solves a challenge. The digest is taken of the canonical text of the
  result, so the peer's spelling of it does not matter. -/

namespace Hashgate

def digestBits : Nat := 256

/-! ## Mining -/

/-- The same header with the next counter. -/
def Header.next (h : Header) : Header := { h with counter := h.counter + 1 }

/-- The first header that is solved among `fuel` headers, each next to the one before. -/
def Header.firstSolved? : (fuel : Nat) → Header → Option Header
  | 0, _ => none
  | fuel + 1, h => if h.isSolved then some h else h.next.firstSolved? fuel

def counterCount : Nat := UInt64.size

inductive Mining where
  /-- It does not begin. -/
  | refused (error : GateError)
  /-- It ends with the text of a solution. -/
  | found (result : String)
  /-- It tries all counters over and over. -/
  | endless
  deriving DecidableEq, Repr

/-- Mines a header, for as long as there are counters left to try. -/
def Header.mine (h : Header) : Mining :=
  if digestBits < h.bits.toNat then .refused (.unsatisfiable h.bits)
  else
    match h.firstSolved? counterCount with
    | some solved => .found solved.render
    | none => .endless

def mine (challenge : String) : Mining :=
  match Header.parse challenge with
  | .error fault => .refused (.header fault)
  | .ok h => h.mine

/-! ## Judging -/

/-- By how much a digest falls short. -/
structure Shortfall where
  zeros : Nat
  required : UInt32
  deriving DecidableEq, Repr

/-- What there is to say of a result that belongs to its challenge. -/
inductive Judgement where
  | valid
  /-- Its digest has too few leading zeros. A judge need not say by how much. -/
  | short (shortfall : Option Shortfall)
  deriving DecidableEq, Repr

def Judgement.isValid : Judgement → Bool
  | .valid => true
  | .short _ => false

def Judgement.entries : Judgement → List Log.Entry
  | .short (some shortfall) =>
    [Log.debug "digest below target"
      [("zero_bits", toString shortfall.zeros), ("required", toString shortfall.required.toNat)]]
  | _ => []

/-- Judges a header by its digest alone. -/
def Header.judge (h : Header) : Judgement :=
  if h.isSolved then .valid else .short (some ⟨leadingZeros h.digest, h.bits⟩)

/-- Judges a result against the challenge that it answers. -/
def judge (result challenge : String) : Except GateError Judgement := do
  let result ← (Header.parse result).mapError .calculated
  let challenge ← (Header.parse challenge).mapError .challenge
  if result.sameChallenge challenge then return result.judge else throw .mismatch

end Hashgate

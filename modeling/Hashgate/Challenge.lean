import Hashgate.Config.Gate
import Hashgate.Header.Basic
import Hashgate.Token

/-! # Challenges

A gate issues a challenge in two steps: it draws how many bits to ask for and what resource to name,
and a generator makes the text. -/

namespace Hashgate

/-- Makes the text of a challenge that asks for some bits and names a resource, or tells why it cannot. A
generator that dies is left out: it is asked by the session itself, which would die with it, and there
would be no outcome and nobody served. -/
abbrev Generator := UInt32 → String → Except GateError String

/-- What chance and the clock add to a challenge. -/
structure Mint where
  minute : Minute
  random : Vector UInt8 Header.randomLength
  counter : Int64
  deriving DecidableEq, Repr

def Mint.text (mint : Mint) (bits : UInt32) (resource : String) : String :=
  (Header.fresh mint.minute bits resource mint.random.toList mint.counter).render

def Mint.generator (mint : Mint) : Generator := fun bits resource => .ok (mint.text bits resource)

/-- What a gate draws before it asks its generator. -/
structure Draw where
  /-- Selects the bits. -/
  bits : Nat
  token : Token
  deriving DecidableEq, Repr

structure Issued where
  header : String
  bits : UInt32
  resource : String
  deriving DecidableEq, Repr

def Issued.entry (issued : Issued) : Log.Entry :=
  Log.info "Issued challenge"
    [("bits", toString issued.bits.toNat), ("resource", issued.resource)]

def GateConfig.issue (config : GateConfig) (draw : Draw) (generate : Generator) :
    Except GateError Issued := do
  config.validate
  let bits := config.chooseBits draw.bits
  let resource := draw.token.text
  let header ← generate bits resource
  return ⟨header, bits, resource⟩

end Hashgate

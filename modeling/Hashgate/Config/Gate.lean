import Hashgate.Error.Gate

/-! # Settings of a gate

How hard the challenges of a gate may be, and how long it waits for a result. -/

namespace Hashgate

structure GateConfig where
  /-- All challenges ask for fewer bits than this. -/
  complexity : UInt32
  /-- How long a result may take, in nanoseconds. -/
  wait : Nat
  deriving DecidableEq, Repr

namespace GateConfig

/-- The fewest bits that a challenge asks for. -/
def minBits : UInt32 := 10

def nanosPerMilli : Nat := 1000000

def nanosPerSecond : Nat := 1000000000

/-- Fewer than thirty bits, and a minute to find them. -/
def standard : GateConfig := ⟨30, 60 * nanosPerSecond⟩

inductive Fault where
  | lowComplexity (complexity : UInt32)
  | zeroWait
  deriving DecidableEq, Repr

def Fault.message : Fault → String
  | .lowComplexity complexity =>
    "complexity must be greater than " ++ toString minBits.toNat ++ ", got " ++
      toString complexity.toNat
  | .zeroWait => "PoW wait duration must be positive"

def Fault.toGateError (fault : Fault) : GateError := .invalidConfig fault.message

/-- The first reason to refuse the settings. -/
def fault? (config : GateConfig) : Option Fault :=
  if config.complexity ≤ minBits then some (.lowComplexity config.complexity)
  else if config.wait = 0 then some .zeroWait
  else none

def validate (config : GateConfig) : Except GateError Unit :=
  match config.fault? with
  | some fault => .error fault.toGateError
  | none => .ok ()

/-- How many different numbers of bits there are to choose from. -/
def bitsChoices (config : GateConfig) : Nat := config.complexity.toNat - minBits.toNat

/-- The number of bits that a draw selects. All choices are equally many draws away. -/
def chooseBits (config : GateConfig) (draw : Nat) : UInt32 :=
  UInt32.ofNat (minBits.toNat + draw % config.bitsChoices)

/-- The wait in whole milliseconds, as far as sixty-four bits can say. -/
def waitMillis (config : GateConfig) : UInt64 :=
  UInt64.ofNat (min (config.wait / nanosPerMilli) (UInt64.size - 1))

/-- The wait in milliseconds of a clock that has no smaller unit, and so may be a little late. -/
def patience (config : GateConfig) : Nat := (config.wait + (nanosPerMilli - 1)) / nanosPerMilli

end GateConfig

end Hashgate

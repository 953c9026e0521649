import Hashgate.Text.Decimal

/-! # Addresses

An address is a host and a port, with the last colon between them. The host may be anything that a
name service can be asked for, so it must not contain the character zero. -/

namespace Hashgate

structure Address where
  host : String
  port : UInt16
  deriving DecidableEq, Repr

namespace Address

inductive Fault where
  | noPort
  | invalidPort
  | zeroInHost
  deriving DecidableEq, Repr

def Fault.message : Fault → String
  | .noPort => "invalid socket address"
  | .invalidPort => "invalid port value"
  | .zeroInHost => "file name contained an unexpected NUL byte"

/-- The wording of a fault of a server that wanted to listen. -/
def Fault.listenMessage (fault : Fault) (address : String) : String :=
  "listen TCP on " ++ address ++ ": " ++ fault.message

/-- What stands before and behind the last colon. -/
def splitLast : List Char → Option (List Char × List Char)
  | [] => none
  | c :: rest =>
    match splitLast rest with
    | some (before, behind) => some (c :: before, behind)
    | none => if c = ':' then some ([], rest) else none

def parse (text : String) : Except Fault Address :=
  match splitLast text.toList with
  | none => .error .noPort
  | some (host, port) =>
    match Decimal.readUInt16 port with
    | .error _ => .error .invalidPort
    | .ok port =>
      if '\x00' ∈ host then .error .zeroInHost else .ok ⟨String.ofList host, port⟩

end Address

end Hashgate

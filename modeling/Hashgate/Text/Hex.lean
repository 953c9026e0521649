/-! # Hexadecimal text

Octets as two lower-case digits each. -/

namespace Hashgate.Hex

def ofOctet (octet : UInt8) : List Char :=
  [Nat.digitChar (octet.toNat / 16), Nat.digitChar (octet.toNat % 16)]

def encode (octets : List UInt8) : List Char := octets.flatMap ofOctet

end Hashgate.Hex

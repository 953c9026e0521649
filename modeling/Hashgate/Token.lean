import Hashgate.Text.Hex

/-! # Tokens

A token is sixteen random octets in the text form of a random UUID: five groups of digits between
hyphens, with four bits that say that the token is random and two that say which layout it has. -/

namespace Hashgate

/-- Sixteen octets to make a token of. -/
abbrev Token := Vector UInt8 16

namespace Token

/-- The octets with the marks of a random UUID set. -/
def octets (token : Token) : List UInt8 :=
  ((token.set 6 (token[6] % 16 + 0x40)).set 8 (token[8] % 64 + 0x80)).toList

def text (token : Token) : String :=
  let group start length := Hex.encode ((token.octets.drop start).take length)
  String.ofList (group 0 4 ++ '-' :: group 4 2 ++ '-' :: group 6 2 ++ '-' :: group 8 2 ++
    '-' :: group 10 6)

end Token

end Hashgate

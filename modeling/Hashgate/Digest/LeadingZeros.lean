/-! # Leading zero bits

Octets as a number written in base two, the most significant bit first.

* `leadingZeros` — how many zeros stand before the first one.
* `hasLeadingZeros` — whether at least so many do. It looks at no more octets than it needs, and
  octets too few to hold that many bits never qualify.

The two agree: octets have `bits` leading zeros exactly when their count is at least `bits`. -/

namespace Hashgate

/-- The zeros before the first one among the eight bits of an octet. -/
def octetZeros (octet : UInt8) : Nat :=
  if octet = 0 then 8 else 7 - octet.toNat.log2

/-- The zeros before the first one among the bits of some octets. -/
def leadingZeros : List UInt8 → Nat
  | [] => 0
  | octet :: rest => if octet = 0 then 8 + leadingZeros rest else octetZeros octet

/-- Whether the first `bits` bits are there and zero. -/
def hasLeadingZeros (octets : List UInt8) (bits : Nat) : Bool :=
  let whole := bits / 8
  let left := bits % 8
  decide (whole ≤ octets.length) && (octets.take whole).all (· == 0) &&
    (left == 0 ||
      match octets[whole]? with
      | some octet => decide (octet.toNat < Nat.pow 2 (8 - left))
      | none => false)

end Hashgate

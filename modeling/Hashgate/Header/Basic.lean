import Hashgate.Calendar
import Hashgate.Digest.LeadingZeros
import Hashgate.Digest.Sha256
import Hashgate.Header.Fault
import Hashgate.Text.Fields

/-! # Headers

A header is the paper that the two sides of a gate pass to and fro: a challenge when the gate hands
it out, and a result when its counter makes the digest small enough. In writing it has seven fields
between colons,

    version:bits:date:resource:extension:random:counter

of which the extension is reserved. Writing leaves it empty, and reading skips it. The counter stands
as base64 of its decimal digits.

* `Header.render` — the canonical text of a header.
* `Header.parse` — the header of a text, or the first fault in the order of the fields.
* `Header.sameChallenge` — equality of all fields but the counter. -/

namespace Hashgate

structure Header where
  version : UInt8
  /-- How many leading bits of the digest have to be zero. -/
  bits : UInt32
  /-- The stamp of the minute in which the header was made. -/
  date : String
  resource : String
  /-- Base64 of the random octets. -/
  random : String
  counter : Int64
  deriving DecidableEq, Repr

namespace Header

def supportedVersion : UInt8 := 1

def randomLength : Nat := 10

def fresh (minute : Minute) (bits : UInt32) (resource : String) (random : List UInt8)
    (counter : Int64) : Header where
  version := supportedVersion
  bits := bits
  date := String.ofList minute.stamp
  resource := resource
  random := String.ofList (Base64.encode random)
  counter := counter

/-- Whether two headers are equal but for the counter. -/
def sameChallenge (a b : Header) : Bool :=
  a.version == b.version && a.bits == b.bits && a.date == b.date && a.resource == b.resource &&
    a.random == b.random

/-! ## Writing -/

def encodeCounter (counter : Int64) : List Char :=
  Base64.encode (Utf8.encode (Decimal.ofInt counter.toInt))

def fields (h : Header) : List (List Char) :=
  [Decimal.ofNat h.version.toNat, Decimal.ofNat h.bits.toNat, h.date.toList, h.resource.toList, [],
    h.random.toList, encodeCounter h.counter]

/-- The canonical text of a header. -/
def render (h : Header) : String := String.ofList (Fields.join ':' h.fields)

def digest (h : Header) : List UInt8 := Sha256.digest (Utf8.ofString h.render)

/-- Whether the digest has as many leading zeros as the header asks for. -/
def isSolved (h : Header) : Bool := hasLeadingZeros h.digest h.bits.toNat

/-! ## Reading -/

def readVersion (field : List Char) : Except Fault UInt8 :=
  match Decimal.readInt64 field with
  | .error why => .error (.invalidVersion why)
  | .ok version =>
    if version.toInt = supportedVersion.toNat then .ok supportedVersion
    else .error (.unsupportedVersion version)

def readBits (field : List Char) : Except Fault UInt32 :=
  (Decimal.readUInt32 field).mapError .invalidBits

/-- The date must be a stamp of the calendar. It may lie in the past or in the future. -/
def readDate (field : List Char) : Except Fault String :=
  match Minute.ofStamp? field with
  | some _ => .ok (String.ofList field)
  | none => .error (.invalidDate (String.ofList field))

def readCounter (field : List Char) : Except Fault Int64 := do
  let octets ← (Base64.decode (Utf8.encode field)).mapError .counterEncoding
  let text ← (Utf8.decode octets).mapError .counterText
  (Decimal.readInt64 text).mapError (.counterNumber (String.ofList text))

def parse (text : String) : Except Fault Header :=
  match Fields.split ':' text.toList with
  | [version, bits, date, resource, _, random, counter] => do
    let version ← readVersion version
    let bits ← readBits bits
    let date ← readDate date
    let counter ← readCounter counter
    return ⟨version, bits, date, String.ofList resource, String.ofList random, counter⟩
  | _ => .error (.malformed text)

end Header

end Hashgate

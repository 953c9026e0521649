import Hashgate.Base64
import Hashgate.Text.Decimal
import Hashgate.Text.Quoted
import Hashgate.Text.Utf8

/-! # Faults of a header

The reasons why a text is no header, in the order in which they are looked for. -/

namespace Hashgate.Header

inductive Fault where
  /-- The text has not exactly seven fields. -/
  | malformed (text : String)
  | invalidVersion (why : Decimal.Fault)
  | unsupportedVersion (version : Int64)
  | invalidBits (why : Decimal.Fault)
  | invalidDate (date : String)
  | counterEncoding (why : Base64.Fault)
  /-- The octets of the counter are no text. -/
  | counterText (why : Utf8.Fault)
  /-- The text of the counter is no number. -/
  | counterNumber (text : String) (why : Decimal.Fault)
  deriving DecidableEq, Repr

/-- Why the counter is no number, once its octets are known. -/
def Fault.counterReason (text : String) (why : Decimal.Fault) : String := text ++ ": " ++ why.message

def Fault.message : Fault → String
  | .malformed text => "malformed header string [" ++ text ++ "]"
  | .invalidVersion why => "convert version to int: " ++ why.message
  | .unsupportedVersion version =>
    "unsupported version " ++ String.ofList (Decimal.ofInt version.toInt)
  | .invalidBits why => "convert bits to int: " ++ why.message
  | .invalidDate date => "parse date [" ++ date ++ "]"
  | .counterEncoding why => "decode counter: " ++ why.message
  | .counterText why => "convert counter to int: " ++ why.message
  | .counterNumber text why => "convert counter to int: " ++ counterReason text why

def Fault.label : Fault → String
  | .malformed _ => "MalformedHeader"
  | .invalidVersion _ => "InvalidVersion"
  | .unsupportedVersion _ => "UnsupportedVersion"
  | .invalidBits _ => "InvalidBits"
  | .invalidDate _ => "InvalidDate"
  | .counterEncoding _ => "InvalidCounterEncoding"
  | .counterText _ | .counterNumber _ _ => "InvalidCounter"

/-! ## Details for a log -/

def inspectDecimal (why : Decimal.Fault) : String :=
  let name := match why with
    | .empty => "Empty"
    | .invalidDigit => "InvalidDigit"
    | .tooLarge => "PosOverflow"
    | .tooSmall => "NegOverflow"
  "ParseIntError \x7b kind: " ++ name ++ " \x7d"

def inspectBase64 : Base64.Fault → String
  | .invalidByte offset octet =>
    "InvalidByte(" ++ toString offset ++ ", " ++ toString octet.toNat ++ ")"
  | .invalidLength length => "InvalidLength(" ++ toString length ++ ")"
  | .invalidLastSymbol offset octet =>
    "InvalidLastSymbol(" ++ toString offset ++ ", " ++ toString octet.toNat ++ ")"
  | .invalidPadding => "InvalidPadding"

def Fault.inspect (fault : Fault) : String :=
  let parts := match fault with
    | .malformed text => Quoted.quote text
    | .invalidVersion why => inspectDecimal why
    | .unsupportedVersion version => String.ofList (Decimal.ofInt version.toInt)
    | .invalidBits why => inspectDecimal why
    | .invalidDate date => Quoted.quote date
    | .counterEncoding why => inspectBase64 why
    | .counterText why => Quoted.quote why.message
    | .counterNumber text why => Quoted.quote (counterReason text why)
  fault.label ++ "(" ++ parts ++ ")"

end Hashgate.Header

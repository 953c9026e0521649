/-! # The shortest text of a real number

A floating-point number stands for all real numbers that round to it. Its text is the decimal number
with the fewest digits among those, and the one nearest to it among several.

* `shortest?` — the digits and the exponent of that decimal number, found in exact arithmetic. For
  1, 2, … 17 digits it tries the two neighbours of the number among the decimals of so many digits.
* `ofFloat` — the text. A number from 10⁻⁵ up to 10¹⁶ is written out, with at least one digit
  after the point, and others have an exponent. -/

namespace Hashgate.Shortest

/-- A positive binary number `mantissa · 2 ^ exponent`. Below it, the next number is half as far as
the next one above when `narrow` says so. -/
structure Binary where
  mantissa : Nat
  exponent : Int
  narrow : Bool
  deriving DecidableEq, Repr

/-- A positive decimal number, `digits · 10 ^ exponent`. -/
structure Decimal where
  digits : Nat
  exponent : Int
  deriving DecidableEq, Repr

/-- The fraction `n · base ^ exponent` as a numerator and a denominator. -/
def scaled (n base : Nat) (exponent : Int) : Nat × Nat :=
  match exponent with
  | .ofNat e => (n * Nat.pow base e, 1)
  | .negSucc e => (n, Nat.pow base (e + 1))

/-- Four times the number, and the ends of the interval of what rounds to it, in quarters of the unit
of its last place. -/
def Binary.quarters (b : Binary) : Nat × Nat × Nat :=
  let four := 4 * b.mantissa
  (four - (if b.narrow then 1 else 2), four, four + 2)

/-- Whether a decimal number rounds to the binary one. The ends of the interval do exactly when the
mantissa is even. -/
def Binary.covers (b : Binary) (d : Decimal) : Bool :=
  let (low, _, high) := b.quarters
  let (dn, dd) := scaled d.digits 10 d.exponent
  let below := fun x => let (n, m) := scaled x 2 (b.exponent - 2); (n * dd, dn * m)
  let (ln, ld) := below low
  let (hn, hd) := below high
  if b.mantissa % 2 = 0 then ln ≤ ld && hd ≤ hn else ln < ld && hd < hn

/-- The exponent of the leading digit of a positive fraction, tried downwards from `0`. -/
def leadingBelow : (fuel num den : Nat) → Int
  | 0, _, _ => 0
  | fuel + 1, num, den => if den ≤ num then 0 else leadingBelow fuel (num * 10) den - 1

def leading (num den : Nat) : Int :=
  if den ≤ num then Int.ofNat ((Nat.toDigits 10 (num / den)).length - 1)
  else leadingBelow 400 num den

/-- Of the two neighbours among the decimals with a given last place, the nearest one that rounds to
the number. A tie goes to the even digit. -/
def Binary.neighbour? (b : Binary) (place : Int) : Option Decimal :=
  let (n, d) := scaled b.mantissa 2 b.exponent
  let (num, den) := match place with
    | .ofNat p => (n, d * Nat.pow 10 p)
    | .negSucc p => (n * Nat.pow 10 (p + 1), d)
  let floor := num / den
  let twice := 2 * (num % den)
  let nearUp := den < twice || (den == twice && floor % 2 == 1)
  let down : Decimal := ⟨floor, place⟩
  let up : Decimal := ⟨floor + 1, place⟩
  let order := if nearUp then [up, down] else [down, up]
  order.find? fun d => 0 < d.digits && b.covers d

/-- The first hit for `count` digits, then for one more, and so on. -/
def Binary.search (b : Binary) (lead : Int) : (fuel count : Nat) → Option Decimal
  | 0, _ => none
  | fuel + 1, count =>
    match b.neighbour? (lead - count + 1) with
    | some d => some d
    | none => b.search lead fuel (count + 1)

/-- The shortest decimal number that rounds to a binary one. -/
def Binary.shortest? (b : Binary) : Option Decimal :=
  let (n, d) := scaled b.mantissa 2 b.exponent
  b.search (leading n d) 17 1

/-! ## Floating-point numbers -/

/-- The leading bit of a mantissa, which a double leaves out. -/
def hiddenBit : Nat := Nat.pow 2 52

def signBit : Nat := UInt64.size / 2

/-- The binary number of a positive finite double, given without its sign. -/
def ofBits (bits : Nat) : Binary :=
  let fraction := bits % hiddenBit
  let biased := bits / hiddenBit % 2048
  if biased = 0 then ⟨fraction, -1074, false⟩
  else ⟨hiddenBit + fraction, Int.ofNat biased - 1075, fraction == 0 && biased != 1⟩

def trim : (fuel : Nat) → Decimal → Decimal
  | 0, d => d
  | fuel + 1, d =>
    if d.digits % 10 = 0 then trim fuel ⟨d.digits / 10, d.exponent + 1⟩ else d

def Decimal.text (d : Decimal) : List Char :=
  let d := trim 20 d
  let digits := Nat.toDigits 10 d.digits
  let count := digits.length
  let lead := d.exponent + Int.ofNat count - 1
  if lead < -5 ∨ 15 < lead then
    let exponent := (if lead < 0 then '-' else '+') :: Nat.toDigits 10 lead.natAbs
    match digits with
    | [] => []
    | [one] => one :: 'e' :: exponent
    | one :: more => one :: '.' :: more ++ 'e' :: exponent
  else if lead < 0 then
    '0' :: '.' :: List.replicate (lead.natAbs - 1) '0' ++ digits
  else
    let whole := lead.toNat + 1
    if count ≤ whole then digits ++ List.replicate (whole - count) '0' ++ ['.', '0']
    else digits.take whole ++ '.' :: digits.drop whole

def ofFloat (x : Float) : List Char :=
  let bits := x.toBits.toNat
  let sign := if signBit ≤ bits then ['-'] else []
  let magnitude := bits % signBit
  if magnitude = 0 then sign ++ ['0', '.', '0']
  else
    match (ofBits magnitude).shortest? with
    | some d => sign ++ d.text
    | none => sign

end Hashgate.Shortest

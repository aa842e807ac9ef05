import SchemaNaming.Number.Binary64

/-!
Decimal text of a binary number: the fewest digits that read back as the same value, and of those
the nearest to it. The digits stand in positional form for decimal exponents from -4 to 15 and in
scientific form beyond.
-/

namespace SchemaNaming.Number

/-- A positive value with the bounds of what rounds to it, over a common denominator. -/
structure Rounding where
  value : Nat
  low : Nat
  high : Nat
  den : Nat
  closed : Bool

namespace Rounding

/-- The gap below the least mantissa of a binade is half the gap above. -/
def ofFinite (mantissa : Nat) (power : Int) : Rounding :=
  let narrow := mantissa == pow2 52 && Binary64.leastPower < power
  let scale := pow2 (power - 2).natAbs
  let (num, den) := if power < 2 then (1, scale) else (scale, 1)
  { value := 4 * mantissa * num
    low := (4 * mantissa - if narrow then 1 else 2) * num
    high := (4 * mantissa + 2) * num
    den := den
    closed := mantissa % 2 == 0 }

def admits (r : Rounding) (n unit : Nat) : Bool :=
  let scaled := n * r.den
  if r.closed then r.low * unit ≤ scaled && scaled ≤ r.high * unit
  else r.low * unit < scaled && scaled < r.high * unit

/-- The multiple of a power of ten that rounds to the value, if one of the two next to it does. -/
def onGrid? (r : Rounding) (exponent : Int) : Option Nat :=
  let step := pow10 exponent.natAbs
  let (num, den, unit, factor) :=
    if exponent < 0 then (r.value * step, r.den, step, 1) else (r.value, r.den * step, 1, step)
  let below := num / den
  let above := below + 1
  let fits (n : Nat) : Bool := r.admits (n * factor) unit
  let rest := num % den
  let nearer := if 2 * rest < den then below else if den < 2 * rest then above
    else if below % 2 == 0 then below else above
  if fits below && fits above then some nearer
  else if fits below then some below
  else if fits above then some above
  else none

end Rounding

def leadingExponent (num den : Nat) : Int :=
  if den ≤ num then ((Nat.toDigits 10 (num / den)).length : Int) - 1
  else
    let k := (Nat.toDigits 10 (den / num)).length
    if den ≤ num * pow10 (k - 1) then -((k : Int) - 1) else -(k : Int)

/-- Digits and the exponent of the last one; seventeen digits always suffice. -/
def shortestDecimal (mantissa : Nat) (power : Int) : Nat × Int :=
  let r := Rounding.ofFinite mantissa power
  let lead := leadingExponent r.value r.den
  let found := (List.range 17).findSome? (fun (n : Nat) =>
    let exponent := lead - (n : Int)
    (r.onGrid? exponent).map (fun digits => (digits, exponent)))
  found.getD (0, 0)

def withoutTrailingZeros : Nat → Nat → Int → Nat × Int
  | 0, digits, exponent => (digits, exponent)
  | fuel + 1, digits, exponent =>
    if digits != 0 && digits % 10 == 0 then withoutTrailingZeros fuel (digits / 10) (exponent + 1)
    else (digits, exponent)

def zeros (n : Nat) : List Char := List.replicate n '0'

def layout (digits : List Char) (lead : Int) : List Char :=
  if lead < -4 || 16 ≤ lead then
    let fraction := digits.drop 1
    let mark := if lead < 0 then '-' else '+'
    let size := Nat.toDigits 10 lead.natAbs
    let size := if size.length < 2 then '0' :: size else size
    digits.take 1 ++ (if fraction.isEmpty then [] else '.' :: fraction) ++ 'e' :: mark :: size
  else if lead < 0 then '0' :: '.' :: zeros (lead.natAbs - 1) ++ digits
  else
    let whole := lead.natAbs + 1
    if digits.length ≤ whole then digits ++ zeros (whole - digits.length) ++ ['.', '0']
    else digits.take whole ++ '.' :: digits.drop whole

def Binary64.render : Binary64 → String
  | .nan => "nan"
  | .infinite negative => if negative then "-inf" else "inf"
  | .finite negative mantissa power =>
    let body :=
      if mantissa == 0 then ['0', '.', '0']
      else
        let (digits, exponent) := shortestDecimal mantissa power
        let (digits, exponent) := withoutTrailingZeros 20 digits exponent
        let text := Nat.toDigits 10 digits
        layout text (exponent + text.length - 1)
    String.ofList (if negative then '-' :: body else body)

end SchemaNaming.Number

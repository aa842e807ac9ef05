/-!
Binary floating point numbers of 64 bits, by their exact values. A finite value is a mantissa below
2^53 times a power of two from -1074 to 971; the mantissa is at least 2^52 unless the power is
the least one. Decimals are rounded to the nearest value, ties to the even mantissa.
-/

namespace SchemaNaming.Number

def pow2 (n : Nat) : Nat := Nat.pow 2 n

def pow10 (n : Nat) : Nat := Nat.pow 10 n

inductive Binary64 where
  | finite (negative : Bool) (mantissa : Nat) (power : Int)
  | infinite (negative : Bool)
  | nan
  deriving DecidableEq, Repr

namespace Binary64

def leastPower : Int := -1074
def greatestPower : Int := 971

def zero (negative : Bool) : Binary64 := .finite negative 0 leastPower

/-- The integer nearest to a quotient, a tie to the even one. -/
def roundDiv (num den : Nat) : Nat :=
  let q := num / den
  let r := num % den
  if 2 * r < den then q
  else if den < 2 * r then q + 1
  else if q % 2 == 0 then q else q + 1

def scaled (num den : Nat) (power : Int) : Nat × Nat :=
  if power < 0 then (num * pow2 power.natAbs, den) else (num, den * pow2 power.natAbs)

/-- The nearest value to 'num / den' with 'den' positive. -/
def ofRatio (negative : Bool) (num den : Nat) : Binary64 :=
  if num == 0 then zero negative
  else
    let estimate : Int := (Nat.log2 num : Int) - (Nat.log2 den : Int) - 53
    let (n, d) := scaled num den estimate
    let normal := if n / d < pow2 53 then estimate else estimate + 1
    let power := max normal leastPower
    let (n, d) := scaled num den power
    let mantissa := roundDiv n d
    let (mantissa, power) :=
      if mantissa == pow2 53 then (pow2 52, power + 1) else (mantissa, power)
    if greatestPower < power then .infinite negative else .finite negative mantissa power

/-- Beyond these decimal magnitudes every value rounds to infinity or to zero. -/
def decimalReach : Nat := 400

def ofDecimal (negative : Bool) (digits : Nat) (exponent : Int) : Binary64 :=
  let magnitude : Int := exponent + (Nat.toDigits 10 digits).length
  if digits == 0 || magnitude < -(decimalReach : Int) then zero negative
  else if (decimalReach : Int) < magnitude then .infinite negative
  else if exponent < 0 then ofRatio negative digits (pow10 exponent.natAbs)
  else ofRatio negative (digits * pow10 exponent.natAbs) 1

def isZero : Binary64 → Bool
  | .finite _ 0 _ => true
  | _ => false

/-- The value as an integer, when it is one. -/
def toInt? : Binary64 → Option Int
  | .finite negative m power =>
    let magnitude : Option Nat :=
      if power < 0 then
        if m % pow2 power.natAbs == 0 then some (m / pow2 power.natAbs) else none
      else some (m * pow2 power.natAbs)
    magnitude.map (fun n => if negative then -(n : Int) else n)
  | _ => none

end Binary64

end SchemaNaming.Number

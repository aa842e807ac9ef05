import SchemaNaming.Number.Binary64

/-!
Sums and products of binary floating point numbers: the exact result, rounded once. A sum of zeros
is negative only when both are, and a sum of opposites is the positive zero.
-/

namespace SchemaNaming.Number.Binary64

def ofScaled (negative : Bool) (n : Nat) (power : Int) : Binary64 :=
  if power < 0 then ofRatio negative n (pow2 power.natAbs)
  else ofRatio negative (n * pow2 power.natAbs) 1

/-- The nearest value to an integer; infinite beyond the greatest. -/
def ofNat (n : Nat) : Binary64 := ofScaled false n 0

def isFinite : Binary64 → Bool
  | .finite .. => true
  | _ => false

def neg : Binary64 → Binary64
  | .finite negative m power => .finite (!negative) m power
  | .infinite negative => .infinite (!negative)
  | .nan => .nan

/-- A mantissa with its sign, in units of a power that is not above its own. -/
def units (negative : Bool) (m : Nat) (power least : Int) : Int :=
  let n : Int := m * pow2 (power - least).natAbs
  if negative then -n else n

def add : Binary64 → Binary64 → Binary64
  | .finite a m p, .finite b n q =>
    let least := min p q
    let sum := units a m p least + units b n q least
    if sum == 0 then zero (m == 0 && n == 0 && a && b)
    else ofScaled (sum < 0) sum.natAbs least
  | .infinite a, .infinite b => if a == b then .infinite a else .nan
  | .infinite a, .finite .. => .infinite a
  | .finite .., .infinite b => .infinite b
  | .nan, _ | _, .nan => .nan

def mul : Binary64 → Binary64 → Binary64
  | .finite a m p, .finite b n q => ofScaled (a != b) (m * n) (p + q)
  | .infinite a, .infinite b => .infinite (a != b)
  | .infinite a, .finite b n _ => if n == 0 then .nan else .infinite (a != b)
  | .finite a m _, .infinite b => if m == 0 then .nan else .infinite (a != b)
  | .nan, _ | _, .nan => .nan

end SchemaNaming.Number.Binary64

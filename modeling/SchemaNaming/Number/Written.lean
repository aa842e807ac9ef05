import SchemaNaming.Number.Decimal
import SchemaNaming.Text.Blank
import SchemaNaming.Text.Numeric
import SchemaNaming.Text.Search

/-!
Numbers as they are written by hand: with blanks around them, in the digits of any script, and for
integers in one of several bases, whose mark may stand in front.
-/

namespace SchemaNaming.Number
open Text

/-- Blanks around a written number; separators of records and groups are none. -/
def isMargin (c : Char) : Bool :=
  c == ' ' || ('\t' ≤ c && c ≤ '\r') || (0x80 ≤ c.toNat && isBlank c)

def plainDigit (c : Char) : Char :=
  if c.toNat < 0x80 then c
  else match decimalValue? c with
    | some d => Char.ofNat ('0'.toNat + d)
    | none => c

def plainNumber (cs : List Char) : List Char := (trim isMargin cs).map plainDigit

def signed : List Char → Bool × List Char
  | '-' :: rest => (true, rest)
  | '+' :: rest => (false, rest)
  | rest => (false, rest)

/-- The value of a digit or letter, from nought to thirty-five. -/
def digitValue? (c : Char) : Option Nat :=
  if isDecimalDigit c then some (c.toNat - '0'.toNat)
  else if 'a' ≤ c.toLower && c.toLower ≤ 'z' then some (c.toLower.toNat - 'a'.toNat + 10)
  else none

def isDigitOf (base : Nat) (c : Char) : Bool := (digitValue? c).any (· < base)

def valueIn (base : Nat) (cs : List Char) : Nat :=
  cs.foldl (fun n c => base * n + (digitValue? c).getD 0) 0

def baseMark? (base : Nat) : Option Char :=
  if base == 2 then some 'b'
  else if base == 8 then some 'o'
  else if base == 16 then some 'x'
  else none

def withoutBaseMark (base : Nat) : List Char → List Char
  | '0' :: c :: rest => if baseMark? base == some c.toLower then rest else '0' :: c :: rest
  | cs => cs

/-- A written integer. Decimal ones have a limit; those of other bases, which are powers of two here,
have none. -/
def integerIn? (base : Nat) (cs : List Char) : Option Int :=
  let (negative, body) := signed (plainNumber cs)
  let digits := withoutBaseMark base body
  if digits.isEmpty || !digits.all (isDigitOf base) then none
  else if base == 10 && digitLimit < digits.length then none
  else
    let n : Int := valueIn base digits
    some (if negative then -n else n)

def Binary64.ofWritten? (cs : List Char) : Option Binary64 :=
  ofText? (String.ofList (plainNumber cs))

end SchemaNaming.Number

import SchemaNaming.Number.Binary64

/-!
Numerals in decimal notation: a sign, whole digits, a fraction and an exponent, each read from the
front of a text.
-/

namespace SchemaNaming.Number

def isDecimalDigit (c : Char) : Bool := '0' ≤ c && c ≤ '9'

def digitsValue (cs : List Char) : Nat :=
  cs.foldl (fun n c => 10 * n + (c.toNat - '0'.toNat)) 0

/-- The most digits that an integer may have in decimal text, read or written. -/
def digitLimit : Nat := 4300

/-- The parts of a numeral as written; an absent fraction or exponent is 'none'. -/
structure Numeral where
  negative : Bool
  whole : List Char
  fraction : Option (List Char)
  exponent : Option Int
  deriving Repr

namespace Numeral

def isInteger (n : Numeral) : Bool := n.fraction.isNone && n.exponent.isNone

def toInt (n : Numeral) : Int :=
  let magnitude : Int := digitsValue n.whole
  if n.negative then -magnitude else magnitude

def toBinary64 (n : Numeral) : Binary64 :=
  let fraction := n.fraction.getD []
  Binary64.ofDecimal n.negative (digitsValue (n.whole ++ fraction))
    (n.exponent.getD 0 - fraction.length)

end Numeral

def takeDigits (cs : List Char) : List Char × List Char :=
  (cs.takeWhile isDecimalDigit, cs.dropWhile isDecimalDigit)

/-- An exponent mark with at least one digit; anything else is left unread. -/
def readExponent (cs : List Char) : Option Int × List Char :=
  match cs with
  | mark :: rest =>
    if mark == 'e' || mark == 'E' then
      let (negative, rest') := match rest with
        | '-' :: tail => (true, tail)
        | '+' :: tail => (false, tail)
        | tail => (false, tail)
      match takeDigits rest' with
      | ([], _) => (none, cs)
      | (digits, after) =>
        let n : Int := digitsValue digits
        (some (if negative then -n else n), after)
    else (none, cs)
  | [] => (none, [])

def readFraction (cs : List Char) : Option (List Char) × List Char :=
  match cs with
  | '.' :: rest =>
    match takeDigits rest with
    | ([], _) => (none, cs)
    | (digits, after) => (some digits, after)
  | _ => (none, cs)

def special? (cs : List Char) : Option Binary64 :=
  let (negative, body) := match cs with
    | '-' :: rest => (true, rest)
    | '+' :: rest => (false, rest)
    | rest => (false, rest)
  let word := String.ofList (body.map Char.toLower)
  if word == "nan" then some .nan
  else if word == "inf" || word == "infinity" then some (.infinite negative)
  else none

/-- A whole text as a number: a decimal with a digit on at least one side of the point, or a
word for a number that is not finite. -/
def Binary64.ofText? (s : String) : Option Binary64 :=
  let cs := s.toList
  match special? cs with
  | some x => some x
  | none =>
    let (negative, body) := match cs with
      | '-' :: rest => (true, rest)
      | '+' :: rest => (false, rest)
      | rest => (false, rest)
    let (whole, rest) := takeDigits body
    let (fraction, rest) := match rest with
      | '.' :: tail =>
        let (digits, after) := takeDigits tail
        (digits, after)
      | rest => ([], rest)
    let (exponent, rest) := readExponent rest
    if rest.isEmpty && !(whole.isEmpty && fraction.isEmpty) then
      some (Numeral.toBinary64 ⟨negative, whole, some fraction, exponent⟩)
    else none

end SchemaNaming.Number

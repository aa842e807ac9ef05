import SchemaNaming.Number.Written
import SchemaNaming.Yaml.Tag

/-!
What plain scalars mean: null, a truth value, an integer, a decimal fraction, a date or text. Integers
may be binary, octal, hexadecimal or written in base sixty with colons, and underscores between
digits count for nothing. One line break at the end counts for nothing either.
-/

namespace SchemaNaming.Yaml
open Number Text

def nullWords : List String := ["~", "null", "Null", "NULL"]

def truthWords : List String :=
  ["yes", "Yes", "YES", "no", "No", "NO", "true", "True", "TRUE", "false", "False", "FALSE",
   "on", "On", "ON", "off", "Off", "OFF"]

def specialWords : List String := [".inf", ".Inf", ".INF", ".nan", ".NaN", ".NAN"]

/-- Digits of a base and underscores, at least one of either. -/
def areDigitsOf (base : Nat) (cs : List Char) : Bool :=
  !cs.isEmpty && cs.all (fun c => c == '_' || isDigitOf base c)

def startsWithDigit (cs : List Char) : Bool := cs.head?.any isDecimalDigit

def isWhole (cs : List Char) : Bool := startsWithDigit cs && areDigitsOf 10 cs

/-- A part of a number in base sixty: one digit, or two of which the first is at most five. -/
def isSixtieth : List Char → Bool
  | [c] => isDecimalDigit c
  | [c, d] => isDigitOf 6 c && isDecimalDigit d
  | _ => false

def areSixtieths (cs : List Char) : Bool :=
  match divideAt (· == ':') cs with
  | whole :: part :: parts => isWhole whole && (part :: parts).all isSixtieth
  | _ => false

def isInteger (cs : List Char) : Bool :=
  match (signed cs).2 with
  | ['0'] => true
  | '0' :: 'b' :: digits => areDigitsOf 2 digits
  | '0' :: 'x' :: digits => areDigitsOf 16 digits
  | '0' :: digits => areDigitsOf 8 digits
  | body => isWhole body || areSixtieths body

def isExponent : List Char → Bool
  | [] => true
  | mark :: sign :: digits =>
    (mark == 'e' || mark == 'E') && (sign == '-' || sign == '+') && !digits.isEmpty &&
      digits.all isDecimalDigit
  | _ => false

def isFractionPart (c : Char) : Bool := c == '_' || isDecimalDigit c

/-- A number with a point: digits in base ten and an exponent, or parts in base sixty. Without a digit
before the point it has one behind it and no sign. -/
def isFraction (cs : List Char) : Bool :=
  let body := (signed cs).2
  let whole := body.takeWhile (· != '.')
  match body.dropWhile (· != '.') with
  | [] => false
  | _ :: rest =>
    let tail := rest.dropWhile isFractionPart
    (isExponent tail && (isWhole whole ||
      (whole.isEmpty && startsWithDigit rest && !startsWithSign cs))) ||
      (tail.isEmpty && areSixtieths whole)
where
  startsWithSign (cs : List Char) : Bool := cs.head?.any (fun c => c == '-' || c == '+')

/-- The words for infinities, which may have a sign, and for what is no number, which has none. -/
def isSpecial (cs : List Char) : Bool :=
  specialWords.contains (String.ofList cs) ||
    (specialWords.take 3).contains (String.ofList (signed cs).2)

/-- What follows between 'least' and 'most' digits. -/
def pastDigits? (least most : Nat) (cs : List Char) : Option (List Char) :=
  let digits := (cs.take most).takeWhile isDecimalDigit
  if least ≤ digits.length then some (cs.drop digits.length) else none

def past? (c : Char) : List Char → Option (List Char)
  | d :: rest => if c == d then some rest else none
  | [] => none

/-- What follows a year, a month and a day, the last two of at least so many digits. -/
def pastDay? (least : Nat) (cs : List Char) : Option (List Char) := do
  let cs ← past? '-' (← pastDigits? 4 4 cs)
  let cs ← past? '-' (← pastDigits? least 2 cs)
  pastDigits? least 2 cs

def pastClock? (cs : List Char) : Option (List Char) := do
  let cs ← past? ':' (← pastDigits? 1 2 cs)
  let cs ← past? ':' (← pastDigits? 2 2 cs)
  pastDigits? 2 2 cs

def pastSeparator? : List Char → Option (List Char)
  | 'T' :: rest | 't' :: rest => some rest
  | c :: rest => if isBlank c then some (rest.dropWhile isBlank) else none
  | [] => none

def withoutFraction : List Char → List Char
  | '.' :: rest => rest.dropWhile isDecimalDigit
  | cs => cs

def pastZone? : List Char → Option (List Char)
  | 'Z' :: rest => some rest
  | sign :: rest => do
    if sign == '-' || sign == '+' then
      let rest ← pastDigits? 1 2 rest
      match rest with
      | ':' :: minutes => some ((pastDigits? 2 2 minutes).getD rest)
      | rest => some rest
    else none
  | [] => none

/-- A date with two digits for month and day, or a date and a time. -/
def isDate (cs : List Char) : Bool :=
  let timed : Option (List Char) := do
    let cs ← pastClock? (← pastSeparator? (← pastDay? 1 cs))
    let cs := withoutFraction cs
    some ((pastZone? (cs.dropWhile isBlank)).getD cs)
  pastDay? 2 cs == some [] || timed == some []

/-- The kind of a text without a line break at its end. -/
def kindOfLine (cs : List Char) : Tag :=
  let word := String.ofList cs
  if nullWords.contains word then .null
  else if truthWords.contains word then .bool
  else if word == "<<" then .merge
  else if word == "=" then .default
  else if word == "!" || word == "&" || word == "*" then .unknown
  else if isFraction cs || isSpecial cs then .float
  else if isInteger cs then .int
  else if isDate cs then .timestamp
  else .text

def kindOf (cs : List Char) : Tag :=
  if cs.isEmpty then .null
  else if cs == ['\n'] then .text
  else kindOfLine (if cs.getLast? == some '\n' then cs.dropLast else cs)

end SchemaNaming.Yaml

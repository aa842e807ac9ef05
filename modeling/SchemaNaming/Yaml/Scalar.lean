import SchemaNaming.Number.Arithmetic
import SchemaNaming.Text.Base64
import SchemaNaming.Text.Case
import SchemaNaming.Yaml.Plain

/-!
Values of scalars by their tags. A tag may ask for more than the text holds; then the text is
malformed, or the rule that reads it goes wrong at the first thing that it does not expect.
-/

namespace SchemaNaming.Yaml
open Number Text

/-- Underscores count for nothing in numbers. -/
def significant (cs : List Char) : List Char := cs.filter (· != '_')

def unsigned (cs : List Char) : Except Refusal (Bool × List Char) :=
  if cs.isEmpty then .error (.mishap .emptyNumeral) else .ok (signed cs)

def inSixtieths (parts : List Int) : Int := parts.foldl (fun n part => 60 * n + part) 0

def magnitude (cs : List Char) : Except Refusal Int :=
  match cs with
  | [] => .error (.mishap .emptyNumeral)
  | '0' :: 'b' :: digits => found (integerIn? 2 digits)
  | '0' :: 'x' :: digits => found (integerIn? 16 digits)
  | '0' :: _ => found (integerIn? 8 cs)
  | cs =>
    if cs.contains ':' then
      (found ((divideAt (· == ':') cs).mapM (integerIn? 10))).map inSixtieths
    else found (integerIn? 10 cs)

def integerOf (cs : List Char) : Except Refusal Value := do
  let (negative, body) ← unsigned (significant cs)
  let n ← magnitude body
  .ok (.int (if negative then -n else n))

/-- The sum of parts, the last one first, each by its power of sixty. -/
def sumOfSixtieths (parts : List Binary64) : Except Refusal Binary64 :=
  (parts.reverse.zipIdx).foldlM (fun sum (part, i) =>
    let weight := Binary64.ofNat (Nat.pow 60 i)
    if weight.isFinite then .ok (sum.add (part.mul weight))
    else .error (.mishap .integerTooLarge)) (.zero false)

def fractionOf (cs : List Char) : Except Refusal Value := do
  let (negative, body) ← unsigned (significant cs)
  let word := String.ofList (body.map Char.toLower)
  let x ←
    if word == ".inf" then .ok (.infinite false)
    else if word == ".nan" then .ok .nan
    else if body.contains ':' then do
      sumOfSixtieths (← found ((divideAt (· == ':') body).mapM Binary64.ofWritten?))
    else found (Binary64.ofWritten? body)
  .ok (.float (if negative then x.neg else x))

def truthOf (cs : List Char) : Except Refusal Value :=
  let word := String.ofList (lowerText cs)
  if ["yes", "true", "on"].contains word then .ok (.bool true)
  else if ["no", "false", "off"].contains word then .ok (.bool false)
  else .error (.mishap (.notTruth word))

def bytesOf (cs : List Char) : Except Refusal Value :=
  if cs.all (fun c => c.toNat < 0x80) then (found (base64Decode? cs)).map .bytes
  else .error .malformed

def leadingNumber (most : Nat) (cs : List Char) : Nat :=
  digitsValue ((cs.take most).takeWhile isDecimalDigit)

/-- A fraction of a second in millionths, cut behind the sixth digit. -/
def millionths (cs : List Char) : Nat :=
  let digits := (cs.takeWhile isDecimalDigit).take 6
  digitsValue (digits ++ List.replicate (6 - digits.length) '0')

/-- A distance from Greenwich in minutes, from its sign on. -/
def distance (sign : Char) (cs : List Char) : Int :=
  let minutes := match pastDigits? 1 2 cs with
    | some (':' :: rest) => leadingNumber 2 rest
    | _ => 0
  let n : Int := 60 * leadingNumber 2 cs + minutes
  if sign == '-' then -n else n

def dateParts? (cs : List Char) : Option Value := do
  let year := leadingNumber 4 cs
  let afterYear ← past? '-' (← pastDigits? 4 4 cs)
  let month := leadingNumber 2 afterYear
  let afterMonth ← past? '-' (← pastDigits? 1 2 afterYear)
  let day : Day := ⟨year, month, leadingNumber 2 afterMonth⟩
  let rest ← pastDigits? 1 2 afterMonth
  if rest.isEmpty then some (.day day)
  else
    let clock ← pastSeparator? rest
    let afterHour ← past? ':' (← pastDigits? 1 2 clock)
    let afterMinute ← past? ':' (← pastDigits? 2 2 afterHour)
    let rest ← pastDigits? 2 2 afterMinute
    let microsecond := match rest with
      | '.' :: digits => millionths digits
      | _ => 0
    let offset : Option Int := match (withoutFraction rest).dropWhile isBlank with
      | [] => none
      | 'Z' :: _ => some 0
      | sign :: cs => some (distance sign cs)
    some (.moment ⟨day, leadingNumber 2 clock, leadingNumber 2 afterHour, leadingNumber 2 afterMinute,
      microsecond, offset⟩)

/-- A date of any form: month and day may have one digit even without a time. -/
def isAnyDate (cs : List Char) : Bool := pastDay? 1 cs == some [] || isDate cs

def isReal : Value → Bool
  | .day d => d.isValid
  | .moment m => m.isValid
  | _ => false

/-- A line break at the end counts for nothing. -/
def dateOf (cs : List Char) : Except Refusal Value :=
  let cs := if cs.getLast? == some '\n' then cs.dropLast else cs
  if !isAnyDate cs then .error (.fault (.noAttribute (.instance Value.null.kindName) "groupdict"))
  else found ((dateParts? cs).filter isReal)

def scalarValue (tag : Tag) (cs : List Char) : Except Refusal Value :=
  match tag with
  | .null => .ok .null
  | .bool => truthOf cs
  | .int => integerOf cs
  | .float => fractionOf cs
  | .text => .ok (.text (String.ofList cs))
  | .binary => bytesOf cs
  | .timestamp => dateOf cs
  | _ => .error .malformed

end SchemaNaming.Yaml

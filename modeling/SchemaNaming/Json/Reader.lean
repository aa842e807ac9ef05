import SchemaNaming.Refusal
import SchemaNaming.Number.Decimal

/-!
Reading of JSON documents. Besides the standard the words for a NaN and for the infinities are
numbers, and a repeated key takes its last value. A byte order mark, a control character inside
a text and anything behind the document are refused.
-/

namespace SchemaNaming.Json
open Number

def isSpace (c : Char) : Bool := c == ' ' || c == '\t' || c == '\n' || c == '\r'

def skipSpace (cs : List Char) : List Char := cs.dropWhile isSpace

/-- What follows a word at the front of a text. -/
def after? (word : String) (cs : List Char) : Option (List Char) :=
  if word.toList.isPrefixOf cs then some (cs.drop word.length) else none

def hexValue? (c : Char) : Option Nat :=
  if '0' ≤ c && c ≤ '9' then some (c.toNat - '0'.toNat)
  else if 'a' ≤ c && c ≤ 'f' then some (c.toNat - 'a'.toNat + 10)
  else if 'A' ≤ c && c ≤ 'F' then some (c.toNat - 'A'.toNat + 10)
  else none

def unit? : List Char → Option (Nat × List Char)
  | a :: b :: c :: d :: rest => do
    let n := (← hexValue? a) * 4096 + (← hexValue? b) * 256 + (← hexValue? c) * 16 + (← hexValue? d)
    some (n, rest)
  | _ => none

/-- Two surrogate units stand for one character; a lone one for the replacement character. -/
def codePoint? (cs : List Char) : Option (Char × List Char) := do
  let (high, rest) ← unit? cs
  if 0xd800 ≤ high && high < 0xdc00 then
    match rest with
    | '\\' :: 'u' :: tail =>
      match unit? tail with
      | some (low, tail) =>
        if 0xdc00 ≤ low && low < 0xe000 then
          some (Char.ofNat (0x10000 + (high - 0xd800) * 0x400 + (low - 0xdc00)), tail)
        else some ('\ufffd', rest)
      | none => none
    | _ => some ('\ufffd', rest)
  else if 0xdc00 ≤ high && high < 0xe000 then some ('\ufffd', rest)
  else some (Char.ofNat high, rest)

def escapes : List (Char × Char) :=
  [('"', '"'), ('\\', '\\'), ('/', '/'), ('b', '\x08'), ('f', '\x0c'), ('n', '\n'), ('r', '\r'),
   ('t', '\t')]

/-- The characters up to the closing quote; the first argument bounds their number. -/
def readText : Nat → List Char → Option (List Char × List Char)
  | 0, _ => none
  | _ + 1, [] => none
  | fuel + 1, c :: rest =>
    if c == '"' then some ([], rest)
    else if c == '\\' then
      match rest with
      | 'u' :: tail => do
        let (d, tail) ← codePoint? tail
        let (ds, tail) ← readText fuel tail
        some (d :: ds, tail)
      | e :: tail => do
        let d ← escapes.lookup e
        let (ds, tail) ← readText fuel tail
        some (d :: ds, tail)
      | [] => none
    else if c < ' ' then none
    else do
      let (ds, tail) ← readText fuel rest
      some (c :: ds, tail)

def readNumber (cs : List Char) : Option (Value × List Char) :=
  let (negative, body) := match cs with
    | '-' :: rest => (true, rest)
    | rest => (false, rest)
  let (whole, rest) := match body with
    | '0' :: rest => (['0'], rest)
    | rest => takeDigits rest
  if whole.isEmpty then none
  else
    let (fraction, rest) := readFraction rest
    let (exponent, rest) := readExponent rest
    let numeral : Numeral := ⟨negative, whole, fraction, exponent⟩
    if numeral.isInteger then
      if digitLimit < whole.length then none else some (.int numeral.toInt, rest)
    else some (.float numeral.toBinary64, rest)

def readWord (cs : List Char) : Option (Value × List Char) :=
  ((after? "null" cs).map (Value.null, ·))
    |>.or ((after? "true" cs).map (Value.bool true, ·))
    |>.or ((after? "false" cs).map (Value.bool false, ·))
    |>.or ((after? "NaN" cs).map (Value.float .nan, ·))
    |>.or ((after? "Infinity" cs).map (Value.float (.infinite false), ·))
    |>.or ((after? "-Infinity" cs).map (Value.float (.infinite true), ·))

/-- The deepest nesting of brackets. -/
def depthLimit : Nat := 980

/-- Nesting too deep for a reader is no error of the document. -/
def tooDeep (kind : String) : Except Refusal α :=
  .error (.mishap (.nestedTooDeep
    (" while decoding a JSON " ++ kind ++ " from a unicode string")))

mutual

/-- One value from the front of a text, inside so many brackets; the second argument bounds the
length. -/
def readValue (depth : Nat) : Nat → List Char → Except Refusal (Value × List Char)
  | 0, _ => .error .malformed
  | fuel + 1, cs =>
    match cs with
    | '"' :: rest => do
      let (cs, rest) ← found (readText (rest.length + 1) rest)
      return (.text (String.ofList cs), rest)
    | '[' :: rest =>
      if depthLimit ≤ depth then tooDeep "array"
      else
        match skipSpace rest with
        | ']' :: rest => return (.list [], rest)
        | rest => do
          let (items, rest) ← readItems (depth + 1) fuel rest
          return (.list items, rest)
    | '\x7b' :: rest =>
      if depthLimit ≤ depth then tooDeep "object"
      else
        match skipSpace rest with
        | '\x7d' :: rest => return (.dict [], rest)
        | rest => do
          let (entries, rest) ← readEntries (depth + 1) fuel rest
          return (Value.dictOf entries, rest)
    | cs => found ((readWord cs).or (readNumber cs))
termination_by structural fuel => fuel

def readItems (depth : Nat) : Nat → List Char → Except Refusal (List Value × List Char)
  | 0, _ => .error .malformed
  | fuel + 1, cs => do
    let (item, rest) ← readValue depth fuel cs
    match skipSpace rest with
    | ',' :: rest =>
      let (items, rest) ← readItems depth fuel (skipSpace rest)
      return (item :: items, rest)
    | ']' :: rest => return ([item], rest)
    | _ => .error .malformed
termination_by structural fuel => fuel

def readEntries (depth : Nat) :
    Nat → List Char → Except Refusal (List (Value × Value) × List Char)
  | 0, _ => .error .malformed
  | fuel + 1, cs =>
    match cs with
    | '"' :: rest => do
      let (key, rest) ← found (readText (rest.length + 1) rest)
      match skipSpace rest with
      | ':' :: rest =>
        let (value, rest) ← readValue depth fuel (skipSpace rest)
        let entry := (Value.text (String.ofList key), value)
        match skipSpace rest with
        | ',' :: rest =>
          let (entries, rest) ← readEntries depth fuel (skipSpace rest)
          return (entry :: entries, rest)
        | '\x7d' :: rest => return ([entry], rest)
        | _ => .error .malformed
      | _ => .error .malformed
    | _ => .error .malformed
termination_by structural fuel => fuel

end

def read (s : String) : Except Refusal Value := do
  let cs := s.toList
  let (value, rest) ← readValue 0 (cs.length + 1) (skipSpace cs)
  if (skipSpace rest).isEmpty then return value else .error .malformed

end SchemaNaming.Json

import SchemaNaming.Text.Printable

/-!
Quoted texts. A text is shown between single quotes, or between double quotes when it holds a
single quote and no double one. The quote and the backslash get a backslash; characters that do
not print are shown by their code point in the shortest of three fixed widths.
-/

namespace SchemaNaming.Text

def hexDigit (n : Nat) : Char := (Nat.toDigits 16 n).headD '0'

/-- The last 'width' hexadecimal digits of a number. -/
def hexDigits : Nat → Nat → List Char
  | 0, _ => []
  | width + 1, n => hexDigits width (n / 16) ++ [hexDigit (n % 16)]

def escapeUnprintable (c : Char) : List Char :=
  let n := c.toNat
  if n < 0x100 then '\\' :: 'x' :: hexDigits 2 n
  else if n < 0x10000 then '\\' :: 'u' :: hexDigits 4 n
  else '\\' :: 'U' :: hexDigits 8 n

def escapeInside (quote c : Char) : List Char :=
  if c == quote || c == '\\' then ['\\', c]
  else if c == '\n' then ['\\', 'n']
  else if c == '\r' then ['\\', 'r']
  else if c == '\t' then ['\\', 't']
  else if isPrintable c then [c]
  else escapeUnprintable c

def quoteFor (cs : List Char) : Char :=
  if cs.contains '\x27' && !cs.contains '"' then '"' else '\x27'

def quoted (s : String) : String :=
  let cs := s.toList
  let quote := quoteFor cs
  String.ofList (quote :: cs.flatMap (escapeInside quote) ++ [quote])

/-- Bytes are shown like the characters of their numbers, behind a mark, and in ASCII only. -/
def quotedBytes (data : List UInt8) : String :=
  let cs := data.map (fun b => Char.ofNat b.toNat)
  let quote := quoteFor cs
  let inside (c : Char) : List Char :=
    if c.toNat < 0x80 then escapeInside quote c else escapeUnprintable c
  String.ofList ('b' :: quote :: cs.flatMap inside ++ [quote])

end SchemaNaming.Text

import SchemaNaming.Fault

/-!
Writing of JSON documents, in ASCII: other characters are escaped by their sixteen bit units.
A document stands on one line, or with one entry a line under an indentation of two spaces. It is
written piece by piece: what has been written before a value that has no place in a document stays.
-/

namespace SchemaNaming.Json
open Number

def escapedUnit (n : Nat) : List Char := '\\' :: 'u' :: Text.hexDigits 4 n

def escaped (c : Char) : List Char :=
  let n := c.toNat
  if c == '"' then ['\\', '"']
  else if c == '\\' then ['\\', '\\']
  else if c == '\n' then ['\\', 'n']
  else if c == '\r' then ['\\', 'r']
  else if c == '\t' then ['\\', 't']
  else if c == '\x08' then ['\\', 'b']
  else if c == '\x0c' then ['\\', 'f']
  else if 0x20 ≤ n && n < 0x7f then [c]
  else if n < 0x10000 then escapedUnit n
  else
    let m := n - 0x10000
    escapedUnit (0xd800 + m / 0x400) ++ escapedUnit (0xdc00 + m % 0x400)

def text (s : String) : String :=
  String.ofList ('"' :: s.toList.flatMap escaped ++ ['"'])

def number (x : Binary64) : String :=
  match x with
  | .nan => "NaN"
  | .infinite negative => if negative then "-Infinity" else "Infinity"
  | x => x.render

/-- What has been written, and what went wrong then. -/
structure Written where
  text : String
  mishap : Option Mishap := none
  deriving DecidableEq, Repr

namespace Written

def of (text : String) : Written := { text }

def failing (m : Mishap) : Written := { text := "", mishap := some m }

/-- Nothing is written behind what went wrong. -/
def append (x y : Written) : Written :=
  match x.mishap with
  | some _ => x
  | none => { y with text := x.text ++ y.text }

instance : Append Written := ⟨append⟩

def ofExcept : Except Mishap String → Written
  | .ok s => .of s
  | .error m => .failing m

end Written

def integer (n : Int) : Except Mishap String :=
  if Value.isLongInteger n then .error .digitLimit else .ok (toString n)

/-- Scalars are written in one piece, together with what stands before them. -/
def scalar? : Value → Option (Except Mishap String)
  | .null => some (.ok "null")
  | .bool b => some (.ok (if b then "true" else "false"))
  | .int n => some (integer n)
  | .float x => some (.ok (number x))
  | .text s => some (.ok (text s))
  | _ => none

/-- Keys are texts; other scalars become one. -/
def keyText : Value → Except Mishap String
  | .null => .ok "null"
  | .bool b => .ok (if b then "true" else "false")
  | .int n => integer n
  | .float x => .ok (number x)
  | .text s => .ok s
  | v => .error (.notKey v.shortKindName)

/-- The gap before an entry or a closing bracket at a depth; none on a single line. -/
def margin : Option Nat → String
  | none => ""
  | some depth => "\n" ++ String.ofList (List.replicate (2 * depth) ' ')

def deeper (indent : Option Nat) : Option Nat := indent.map (· + 1)

def separator (indent : Option Nat) : String :=
  if indent.isNone then ", " else "," ++ margin indent

mutual

/-- 'indent' is the depth of the value, or absent for a document on one line. -/
def write (indent : Option Nat) : Value → Written
  | .list [] | .tuple [] => .of "[]"
  | .list items =>
    writeItems (deeper indent) ("[" ++ margin (deeper indent)) items ++ .of (margin indent ++ "]")
  | .tuple items =>
    writeItems (deeper indent) ("[" ++ margin (deeper indent)) items ++ .of (margin indent ++ "]")
  | .dict [] => .of "\x7b\x7d"
  | .dict entries =>
    .of ("\x7b" ++ margin (deeper indent)) ++ writeEntries (deeper indent) "" entries ++
      .of (margin indent ++ "\x7d")
  | .labelled _ _ v => write indent v
  | .around _ _ => .failing .circular
  | v =>
    match scalar? v with
    | some written => .ofExcept written
    | none => .failing (.notSerializable v.shortKindName)

/-- Items, each behind a lead, which is the separator for all but the first. -/
def writeItems (indent : Option Nat) (lead : String) : List Value → Written
  | [] => .of ""
  | item :: rest =>
    let first := match scalar? item with
      | some written => .ofExcept (written.map (lead ++ ·))
      | none => .of lead ++ write indent item
    first ++ writeItems indent (separator indent) rest

def writeEntries (indent : Option Nat) (lead : String) : List (Value × Value) → Written
  | [] => .of ""
  | (key, value) :: rest =>
    .ofExcept ((keyText key).map (fun key => lead ++ text key ++ ": ")) ++ write indent value ++
      writeEntries indent (separator indent) rest

end

def document (v : Value) : Written := write (some 0) v

end SchemaNaming.Json

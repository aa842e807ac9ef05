import SchemaNaming.Json.Reader

/-!
Places in a YAML document. A line ends at any of five characters; a byte order mark takes no column.
-/

namespace SchemaNaming.Yaml

def isBreak (c : Char) : Bool := ['\n', '\r', '\x85', '\u2028', '\u2029'].contains c

def isBlank (c : Char) : Bool := c == ' ' || c == '\t'

def isGap (c : Char) : Bool := isBlank c || isBreak c

def atEndOr (test : Char → Bool) : List Char → Bool
  | [] => true
  | c :: _ => test c

def atGap (cs : List Char) : Bool := atEndOr isGap cs

/-- At an end, a space or a line break; a tab is none of these. -/
def atSpace (cs : List Char) : Bool := atEndOr (fun c => c == ' ' || isBreak c) cs

def atBreak (cs : List Char) : Bool := atEndOr isBreak cs

def startsWith (mark : String) (cs : List Char) : Bool :=
  mark.toList.isPrefixOf cs && atGap (cs.drop mark.length)

def isMark (cs : List Char) : Bool := startsWith "---" cs || startsWith "..." cs

/-- The characters that end a plain scalar between brackets. -/
def flowMarks : List Char := [',', '[', ']', '\x7b', '\x7d']

def indicators : List Char :=
  ['-', '?', ':', '#', '&', '*', '!', '|', '>', '\x27', '"', '%', '@', '\x60'] ++ flowMarks

def byteOrderMark : Char := '\ufeff'

/-- The rest of a document with the number of characters, lines and columns before it. -/
structure Cursor where
  rest : List Char
  index : Nat := 0
  line : Nat := 0
  column : Nat := 0
  deriving Repr

namespace Cursor

def head? (cur : Cursor) : Option Char := cur.rest.head?

def next (cur : Cursor) : Cursor :=
  match cur.rest with
  | [] => cur
  | c :: rest =>
    if isBreak c && !(c == '\r' && rest.head? == some '\n') then
      ⟨rest, cur.index + 1, cur.line + 1, 0⟩
    else
      ⟨rest, cur.index + 1, cur.line, if c == byteOrderMark then cur.column else cur.column + 1⟩

def advance : Nat → Cursor → Cursor
  | 0, cur => cur
  | n + 1, cur => advance n cur.next

def taking (test : Char → Bool) (cur : Cursor) : List Char × Cursor :=
  let taken := cur.rest.takeWhile test
  (taken, cur.advance taken.length)

def skipping (test : Char → Bool) (cur : Cursor) : Cursor := (cur.taking test).2

/-- What a line break stands for, and the place behind it; nothing where there is none. -/
def lineBreak (cur : Cursor) : List Char × Cursor :=
  match cur.rest with
  | '\r' :: '\n' :: _ => (['\n'], cur.advance 2)
  | c :: _ =>
    if c == '\u2028' || c == '\u2029' then ([c], cur.next)
    else if isBreak c then (['\n'], cur.next)
    else ([], cur)
  | [] => ([], cur)

def toLineEnd (cur : Cursor) : Cursor := cur.skipping (fun c => !isBreak c)

/-- Behind spaces, a comment and the end of the line, if nothing else stands there. -/
def pastLine? (cur : Cursor) : Option Cursor :=
  let cur := cur.skipping (· == ' ')
  let cur := if cur.head? == some '#' then cur.toLineEnd else cur
  if atBreak cur.rest then some cur.lineBreak.2 else none

end Cursor

end SchemaNaming.Yaml

import SchemaNaming.Refusal
import SchemaNaming.Yaml.Cursor

/-!
Scalars on one line or folded over several: plain ones, and those in single or double quotes. A
single line break inside one is a space, and of several the first is dropped.
-/

namespace SchemaNaming.Yaml

/-- What a gap that begins with a line break stands for, from what its breaks do. -/
def folded (first : List Char) (more : List Char) : List Char :=
  (if first != ['\n'] then first else if more.isEmpty then [' '] else []) ++ more

def plainLength (flow : Bool) : List Char → Nat
  | [] => 0
  | c :: rest =>
    let ends := isGap c ||
      (c == ':' && (atGap rest || (flow && rest.head?.any flowMarks.contains))) ||
      (flow && (c == '?' || flowMarks.contains c))
    if ends then 0 else plainLength flow rest + 1

/-- The line breaks of empty lines and the place behind them; the flag tells of a mark between
documents. -/
def emptyLines : Nat → Cursor → List Char × Cursor × Bool
  | 0, cur => ([], cur, false)
  | fuel + 1, cur =>
    if isMark cur.rest then ([], cur, true)
    else
      let cur := cur.skipping (· == ' ')
      match cur.lineBreak with
      | ([], _) => ([], cur, false)
      | (ends, next) =>
        let (more, next, atMark) := emptyLines fuel next
        (ends ++ more, next, atMark)

/-- A gap inside a plain scalar, the place behind it and whether a line ends in it. Nothing is a gap
that leads to a mark between documents. -/
def plainGap (cur : Cursor) : List Char × Cursor × Bool :=
  let (spaces, cur) := cur.taking (· == ' ')
  match cur.lineBreak with
  | ([], _) => (spaces, cur, false)
  | (first, next) =>
    let (more, next, atMark) := emptyLines (next.rest.length + 1) next
    (if atMark then [] else folded first more, next, true)

/-- The words of a plain scalar behind a gap, and whether a line ends behind the last one. Outside
brackets its lines stand at the least column or behind it. -/
def plainFrom (flow : Bool) (least : Nat) : Nat → List Char → Cursor → List Char × Cursor × Bool
  | 0, _, cur => ([], cur, false)
  | fuel + 1, gap, cur =>
    let n := plainLength flow cur.rest
    let word := gap ++ cur.rest.take n
    let (gap, next, ends) := plainGap (cur.advance n)
    if gap.isEmpty || next.head? == some '#' || (!flow && next.column < least) ||
        plainLength flow next.rest == 0 then
      (word, next, ends)
    else
      let (more, next, ends) := plainFrom flow least fuel gap next
      (word ++ more, next, ends)

def plain (flow : Bool) (least : Nat) (cur : Cursor) : List Char × Cursor × Bool :=
  plainFrom flow least (cur.rest.length + 1) [] cur

def startsPlain (flow : Bool) : List Char → Bool
  | [] => false
  | c :: rest =>
    !isGap c && (!indicators.contains c ||
      (!atGap rest && (c == '-' || (!flow && (c == '?' || c == ':')))))

def escapes : List (Char × Char) :=
  [('0', '\x00'), ('a', '\x07'), ('b', '\x08'), ('t', '\t'), ('\t', '\t'), ('n', '\n'),
   ('v', '\x0b'), ('f', '\x0c'), ('r', '\r'), ('e', '\x1b'), (' ', ' '), ('"', '"'), ('/', '/'),
   ('\\', '\\'), ('N', '\x85'), ('_', '\xa0'), ('L', '\u2028'), ('P', '\u2029')]

def escapeWidths : List (Char × Nat) := [('x', 2), ('u', 4), ('U', 8)]

def greatestNumber : Nat := 0x7fffffff

/-- The character of a code point in hexadecimal digits; the replacement character stands for
surrogates. -/
def codePoint (digits : List Char) : Except Refusal Char := do
  let values ← found (digits.mapM Json.hexValue?)
  let n := values.foldl (fun n d => 16 * n + d) 0
  if greatestNumber < n then .error (.mishap .codePointTooLarge)
  else if 0x10ffff < n then .error .malformed
  else if 0xd800 ≤ n && n < 0xe000 then .ok '\ufffd'
  else .ok (Char.ofNat n)

/-- The line breaks of empty lines in quotes, where tabs count as spaces. -/
def quotedLines : Nat → Cursor → Except Refusal (List Char × Cursor)
  | 0, cur => .ok ([], cur)
  | fuel + 1, cur =>
    if isMark cur.rest then .error .malformed
    else
      let cur := cur.skipping isBlank
      match cur.lineBreak with
      | ([], _) => .ok ([], cur)
      | (ends, next) => do
        let (more, next) ← quotedLines fuel next
        .ok (ends ++ more, next)

def escape (cur : Cursor) : Except Refusal (List Char × Cursor) :=
  match cur.head? with
  | none => .error .malformed
  | some c =>
    match escapes.lookup c, escapeWidths.lookup c with
    | some d, _ => .ok ([d], cur.next)
    | none, some width => do
      let digits := (cur.rest.drop 1).take width
      if digits.length < width then .error .malformed
      else .ok ([← codePoint digits], cur.advance (width + 1))
    | none, none =>
      match cur.lineBreak with
      | ([], _) => .error .malformed
      | (_, next) => quotedLines (next.rest.length + 1) next

def quotedGap (cur : Cursor) : Except Refusal (List Char × Cursor) :=
  let (blanks, cur) := cur.taking isBlank
  match cur.lineBreak with
  | ([], _) => .ok (blanks, cur)
  | (first, next) => do
    let (more, next) ← quotedLines (next.rest.length + 1) next
    .ok (folded first more, next)

def isQuotedChar (c : Char) : Bool := !isGap c && c != '\x27' && c != '"' && c != '\\'

def quotedFrom (quote : Char) : Nat → Cursor → Except Refusal (List Char × Cursor)
  | 0, _ => .error .malformed
  | fuel + 1, cur =>
    match cur.rest with
    | [] => .error .malformed
    | c :: rest => do
      if c == quote && !(c == '\x27' && rest.head? == some '\x27') then .ok ([], cur.next)
      else
        let (part, next) ←
          if c == quote then .ok ([c], cur.advance 2)
          else if c == '\\' && quote == '"' then escape cur.next
          else if isGap c then quotedGap cur
          else if isQuotedChar c then .ok (cur.taking isQuotedChar)
          else .ok ([c], cur.next)
        let (more, next) ← quotedFrom quote fuel next
        .ok (part ++ more, next)

def quoted (quote : Char) (cur : Cursor) : Except Refusal (List Char × Cursor) :=
  quotedFrom quote (cur.rest.length + 1) cur.next

end SchemaNaming.Yaml

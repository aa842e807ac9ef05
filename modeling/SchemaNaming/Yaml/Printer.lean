import SchemaNaming.Number.Shortest
import SchemaNaming.Refusal
import SchemaNaming.Text.Base64
import SchemaNaming.Text.Quoted
import SchemaNaming.Yaml.Outline
import SchemaNaming.Yaml.Plain

/-!
Writing of YAML documents in block style, in ASCII. A text is plain unless it is empty or would
read as something else, then in single quotes, and in double quotes when it holds what only
escapes can show. Lines beyond the width are folded at single spaces. Bytes are a literal block,
and sets are mappings without values under a tag.
-/

namespace SchemaNaming.Yaml
open Number Text

/-- The column behind which lines are folded. -/
def width : Nat := 80

def spaces (n : Nat) : List Char := List.replicate n ' '

def newLine (indent : Nat) : List Char := '\n' :: spaces indent

/-- Whether a plain scalar reads as the text that it shows. -/
def readsAsText (cs : List Char) : Bool := kindOf cs == .text

def isPlainChar (c : Char) : Bool := 0x20 ≤ c.toNat && c.toNat ≤ 0x7e

def hasInnerMark : List Char → Bool
  | [] => false
  | c :: rest =>
    (c == ':' && atGap rest) || (isGap c && rest.head? == some '#') || hasInnerMark rest

def hasLeadMark (cs : List Char) : Bool :=
  cs.take 3 == ['-', '-', '-'] || cs.take 3 == ['.', '.', '.'] ||
    match cs with
    | [] => false
    | c :: rest => indicators.contains c && (atGap rest || !(c == '-' || c == '?' || c == ':'))

def isPlain (cs : List Char) : Bool :=
  readsAsText cs && cs.all isPlainChar && cs.head? != some ' ' && cs.getLast? != some ' ' &&
    !hasLeadMark cs && !hasInnerMark cs

def hasLooseSpace : List Char → Bool
  | a :: b :: rest =>
    (a == ' ' && b == '\n') || (a == '\n' && b == ' ') || hasLooseSpace (b :: rest)
  | _ => false

def isSingle (cs : List Char) : Bool :=
  cs.all (fun c => c == '\n' || isPlainChar c) && !hasLooseSpace cs

/-- Words and single spaces; the column is where the first one begins. -/
def plainRuns (indent column : Nat) : List (List Char) → List Char
  | [] => []
  | run :: rest =>
    if run == [' '] && width < column then newLine indent ++ plainRuns indent indent rest
    else run ++ plainRuns indent (column + run.length) rest

def runKind (c : Char) : Nat := if c == ' ' then 0 else if c == '\n' then 1 else 2

def runs (cs : List Char) : List (List Char) := cs.splitBy (fun a b => runKind a == runKind b)

/-- Quotes are doubled, and each line break stands beside an empty line. -/
def singleRuns (folds : Bool) (indent : Nat) : Bool → Nat → List (List Char) → List Char
  | _, _, [] => []
  | inner, column, run :: rest =>
    if folds && inner && run == [' '] && !rest.isEmpty && width < column then
      newLine indent ++ singleRuns folds indent true indent rest
    else if run.head? == some '\n' then
      run ++ newLine indent ++ singleRuns folds indent true indent rest
    else
      let shown := run.flatMap (fun c => if c == '\x27' then [c, c] else [c])
      shown ++ singleRuns folds indent true (column + shown.length) rest

def shownEscapes : List (Char × Char) :=
  [('\x00', '0'), ('\x07', 'a'), ('\x08', 'b'), ('\t', 't'), ('\n', 'n'), ('\x0b', 'v'),
   ('\x0c', 'f'), ('\r', 'r'), ('\x1b', 'e'), ('"', '"'), ('\\', '\\'), ('\x85', 'N'),
   ('\xa0', '_'), ('\u2028', 'L'), ('\u2029', 'P')]

def escaped (c : Char) : List Char :=
  let n := c.toNat
  let digits (width : Nat) : List Char := (hexDigits width n).map Char.toUpper
  match shownEscapes.lookup c with
  | some d => ['\\', d]
  | none =>
    if n ≤ 0xff then '\\' :: 'x' :: digits 2
    else if n ≤ 0xffff then '\\' :: 'u' :: digits 4
    else '\\' :: 'U' :: digits 8

/-- A line ends in a backslash at a space or behind an escape; a space at the front of the next one
is escaped. 'inner' tells that a character precedes, 'fresh' that an escape or a fold did so. -/
def doubleFrom (folds : Bool) (indent : Nat) : Bool → Bool → Nat → List Char → List Char
  | _, _, _, [] => []
  | inner, fresh, column, c :: rest =>
    let mayFold := folds && inner && !rest.isEmpty
    if c == '"' || c == '\\' || !isPlainChar c then
      let shown := escaped c
      let column := column + shown.length
      if mayFold && width + 1 < column then
        let lead := if rest.head? == some ' ' then ['\\'] else []
        shown ++ '\\' :: newLine indent ++ lead ++
          doubleFrom folds indent true true (indent + lead.length) rest
      else shown ++ doubleFrom folds indent true true column rest
    else if mayFold && (c == ' ' || fresh) && width < column then
      let lead := if c == ' ' then ['\\'] else []
      '\\' :: newLine indent ++ lead ++
        c :: doubleFrom folds indent true false (indent + lead.length + 1) rest
    else c :: doubleFrom folds indent true false (column + 1) rest

/-- Plain text, on one line if it is a key. -/
def plainText (isKey : Bool) (indent column : Nat) (cs : List Char) : List Char :=
  if isKey then cs else plainRuns indent column (runs cs)

def textScalar (isKey : Bool) (indent column : Nat) (cs : List Char) : List Char :=
  if isPlain cs then plainText isKey indent column cs
  else if isSingle cs && !(isKey && cs.contains '\n') then
    '\x27' :: singleRuns (!isKey) indent false (column + 1) (runs cs) ++ ['\x27']
  else '"' :: doubleFrom (!isKey) indent false true (column + 1) cs ++ ['"']

/-- Numbers with an exponent always show a point. -/
def number (x : Binary64) : List Char :=
  match x with
  | .nan => ".nan".toList
  | .infinite negative => if negative then "-.inf".toList else ".inf".toList
  | x =>
    let cs := x.render.toList
    if cs.contains '.' then cs
    else cs.flatMap (fun c => if c == 'e' then ['.', '0', 'e'] else [c])

def bytesLines (indent : Nat) (data : List UInt8) : List Char :=
  '|' :: (base64Encode data).flatMap (fun line => newLine indent ++ line)

/-- Collections are written elsewhere. -/
def scalar (isKey : Bool) (indent column : Nat) : Value → List Char
  | .null => "null".toList
  | .bool b => if b then "true".toList else "false".toList
  | .int n => (toString n).toList
  | .float x => number x
  | .text s => textScalar isKey indent column s.toList
  | .bytes data => if data.isEmpty then ['"', '"'] else bytesLines indent data
  | .day d => d.isoText.toList
  | .moment m => plainText isKey indent column m.isoText.toList
  | _ => []

def anchorName (number : Nat) : List Char :=
  let digits := Nat.toDigits 10 number
  'i' :: 'd' :: List.replicate (3 - digits.length) '0' ++ digits

def anchorWord (anchor : Option Nat) : List (List Char) :=
  (anchor.map (fun number => '&' :: anchorName number)).toList

def properties : Outline → List (List Char)
  | .scalar anchor (.bytes _) => anchorWord anchor ++ ["!!binary".toList]
  | .scalar anchor _ | .sequence anchor _ | .mapping anchor false _ => anchorWord anchor
  | .mapping anchor true _ => anchorWord anchor ++ ["!!set".toList]
  | .alias _ => []

def spaced (words : List (List Char)) : List Char := words.flatMap (· ++ [' '])

/-- The longest text of a key that stands before its colon on one line. -/
def keyLimit : Nat := 122

/-- Keys that are empty, long or hold line breaks, and keys with items, stand behind a question
mark. -/
def isShortKey : Outline → Bool
  | .scalar _ (.text s) =>
    !s.isEmpty && !s.toList.any (fun c => isBreak c && c != '\r') && s.length ≤ keyLimit
  | .scalar _ (.int n) => (toString n).length ≤ keyLimit
  | .scalar _ (.bytes _) => false
  | .scalar .. | .alias _ => true
  | .sequence _ items => items.isEmpty
  | .mapping _ _ entries => entries.isEmpty

def stacked (indent : Nat) (entries : List (List Char)) : List Char :=
  (newLine indent).intercalate entries

def leaf (isKey : Bool) (indent column : Nat) (o : Outline) : List Char :=
  let lead := spaced (properties o)
  lead ++ match o with
    | .scalar _ v => scalar isKey indent (column + lead.length) v
    | .sequence .. => "[]".toList
    | .mapping .. => "\x7b\x7d".toList
    | .alias number => '*' :: anchorName number

/-- A block behind a mark: on the same line, unless properties stand there. -/
def inlineBlock (indent : Nat) (o : Outline) (entries : List (List Char)) : List Char :=
  match properties o with
  | [] => stacked indent entries
  | words => [' '].intercalate words ++ newLine indent ++ stacked indent entries

def keyedBlock (indent : Nat) (o : Outline) (entries : List (List Char)) : List Char :=
  (properties o).flatMap (' ' :: ·) ++ newLine indent ++ stacked indent entries

mutual

/-- A value behind a mark. Items below an anchor stand at a column of their own. -/
def inlineValue (indent below : Nat) : Outline → List Char
  | .sequence anchor items =>
    let column := if anchor.isSome then below else indent
    if items.isEmpty then leaf false indent indent (.sequence anchor [])
    else inlineBlock column (.sequence anchor []) (itemTexts column items)
  | .mapping anchor isSet entries =>
    if entries.isEmpty then leaf false indent indent (.mapping anchor isSet [])
    else inlineBlock indent (.mapping anchor isSet []) (entryTexts indent entries)
  | o => leaf false indent indent o

/-- A value behind a key; sequences stand at the column of the key. -/
def keyedValue (indent column : Nat) : Outline → List Char
  | .sequence anchor items =>
    if items.isEmpty then ' ' :: leaf false indent indent (.sequence anchor [])
    else keyedBlock indent (.sequence anchor []) (itemTexts indent items)
  | .mapping anchor isSet entries =>
    if entries.isEmpty then ' ' :: leaf false indent indent (.mapping anchor isSet [])
    else keyedBlock (indent + 2) (.mapping anchor isSet []) (entryTexts (indent + 2) entries)
  | o => ' ' :: leaf false (indent + 2) (column + 1) o

def itemTexts (indent : Nat) : List Outline → List (List Char)
  | [] => []
  | item :: rest =>
    ('-' :: ' ' :: inlineValue (indent + 2) (indent + 2) item) :: itemTexts indent rest

def entryTexts (indent : Nat) : List (Outline × Outline) → List (List Char)
  | [] => []
  | (key, value) :: rest =>
    let text :=
      if isShortKey key then
        let shown := leaf true (indent + 2) indent key
        shown ++ ':' :: keyedValue indent (indent + shown.length + 1) value
      else
        '?' :: ' ' :: inlineValue (indent + 2) indent key ++ newLine indent ++
          ':' :: ' ' :: inlineValue (indent + 2) indent value
    text :: entryTexts indent rest

end

/-- A mapping as a document; an integer that is too long spoils all of it. -/
def document (entries : List (Value × Value)) : Except Mishap String :=
  let v : Value := .dict entries
  if (visit {} v).hasLongInteger then .error .digitLimit
  else .ok (String.ofList (inlineValue 0 0 (outlineOf v) ++ ['\n']))

end SchemaNaming.Yaml

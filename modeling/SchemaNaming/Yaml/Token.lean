import SchemaNaming.Yaml.BlockScalar
import SchemaNaming.Yaml.FlowScalar
import SchemaNaming.Yaml.Tag

/-!
Tokens of YAML documents. Marks at the front of entries open blocks where they stand deeper than the
block around them, and what stands less deep closes blocks. That a token is the key of an entry
shows only at the colon behind it, on the same line and not far away; the mark of the key is then
put before the token.
-/

namespace SchemaNaming.Yaml

inductive Token where
  | directive (d : Directive)
  | documentStart
  | documentEnd
  | streamEnd
  | blockSequence
  | blockMapping
  | blockEnd
  | flowSequence
  | flowSequenceEnd
  | flowMapping
  | flowMappingEnd
  /-- The mark of an item in a block. -/
  | item
  | comma
  | key
  | value
  | alias (name : String)
  | anchor (name : String)
  | tag (t : TagName)
  | scalar (cs : List Char) (isPlain : Bool)
  deriving DecidableEq, Repr, Inhabited

/-- A place that may turn out to be a key. -/
structure Candidate where
  /-- The number of tokens before it. -/
  token : Nat
  /-- Stands where only an entry can. -/
  isNeeded : Bool
  index : Nat
  line : Nat
  column : Nat
  deriving Repr

structure Scan where
  cursor : Cursor
  tokens : Array Token := #[]
  /-- The number of brackets that are open. -/
  flow : Nat := 0
  /-- The columns of the open blocks, innermost first. -/
  columns : List Nat := []
  /-- Whether a key may begin here. -/
  mayKey : Bool := true
  /-- The places that may be keys, each by the number of brackets around it. -/
  candidates : List (Nat × Candidate) := []
  deriving Repr

namespace Scan

/-- The farthest that a colon may stand from the front of its key. -/
def keyReach : Nat := 1024

def push (t : Token) (s : Scan) : Scan := { s with tokens := s.tokens.push t }

def take (t : Token) (cursor : Cursor) (s : Scan) : Scan := { s.push t with cursor }

def least (s : Scan) : Nat :=
  match s.columns with
  | [] => 0
  | column :: _ => column + 1

/-- Drops places that are too far back to be keys. -/
def dropStale (s : Scan) : Except Refusal Scan :=
  let isStale (entry : Nat × Candidate) : Bool :=
    entry.2.line != s.cursor.line || keyReach < s.cursor.index - entry.2.index
  if s.candidates.any (fun entry => isStale entry && entry.2.isNeeded) then .error .malformed
  else .ok { s with candidates := s.candidates.filter (fun entry => !isStale entry) }

def dropCandidate (s : Scan) : Except Refusal Scan :=
  match s.candidates.lookup s.flow with
  | none => .ok s
  | some candidate =>
    if candidate.isNeeded then .error .malformed
    else .ok { s with candidates := s.candidates.filter (fun entry => entry.1 != s.flow) }

/-- Notes that a key may begin here, if one may. -/
def noteCandidate (s : Scan) : Except Refusal Scan :=
  if !s.mayKey then .ok s
  else do
    let s ← s.dropCandidate
    let candidate : Candidate :=
      { token := s.tokens.size
        isNeeded := s.flow == 0 && s.columns.head? == some s.cursor.column
        index := s.cursor.index
        line := s.cursor.line
        column := s.cursor.column }
    .ok { s with candidates := (s.flow, candidate) :: s.candidates }

def closeFrom (column : Nat) : List Nat → Array Token → List Nat × Array Token
  | [], tokens => ([], tokens)
  | top :: rest, tokens =>
    if column < top then closeFrom column rest (tokens.push .blockEnd) else (top :: rest, tokens)

def close (column : Nat) (s : Scan) : Scan :=
  if s.flow != 0 then s
  else
    let (columns, tokens) := closeFrom column s.columns s.tokens
    { s with columns, tokens }

def closeAll (s : Scan) : Scan :=
  if s.flow != 0 then s
  else
    { s with columns := [], tokens := s.tokens ++ Array.replicate s.columns.length Token.blockEnd }

def openBlock (column position : Nat) (t : Token) (s : Scan) : Scan :=
  if s.least ≤ column then
    { s with columns := column :: s.columns, tokens := s.tokens.insertIdxIfInBounds position t }
  else s

/-- A mark between documents, or a directive, ends every block. -/
def apart (s : Scan) : Except Refusal Scan := do
  let s ← s.closeAll.dropCandidate
  .ok { s with mayKey := false }

def bracket (t : Token) (s : Scan) : Except Refusal Scan := do
  let s ← s.noteCandidate
  .ok ({ s with flow := s.flow + 1, mayKey := true }.take t s.cursor.next)

def bracketEnd (t : Token) (s : Scan) : Except Refusal Scan := do
  let s ← s.dropCandidate
  if s.flow == 0 then .error .malformed
  else .ok ({ s with flow := s.flow - 1, mayKey := false }.take t s.cursor.next)

def mark (t block : Token) (mayKey : Bool) (s : Scan) : Except Refusal Scan := do
  if s.flow == 0 && !s.mayKey then .error .malformed
  else
    let s := if s.flow == 0 then s.openBlock s.cursor.column s.tokens.size block else s
    let s ← { s with mayKey }.dropCandidate
    .ok (s.take t s.cursor.next)

/-- A colon: behind a key, or with no key before it. -/
def colon (s : Scan) : Except Refusal Scan :=
  match s.candidates.lookup s.flow with
  | some candidate =>
    let s := { s with
      candidates := s.candidates.filter (fun entry => entry.1 != s.flow)
      tokens := s.tokens.insertIdxIfInBounds candidate.token .key
      mayKey := false }
    let s := if s.flow == 0 then s.openBlock candidate.column candidate.token .blockMapping else s
    .ok (s.take .value s.cursor.next)
  | none => s.mark .value .blockMapping (s.flow == 0)

def leaf (read : Cursor → Except Refusal (Token × Cursor)) (s : Scan) : Except Refusal Scan := do
  let s ← s.noteCandidate
  let (t, cursor) ← read s.cursor
  .ok ({ s with mayKey := false }.take t cursor)

def name (make : String → Token) (cur : Cursor) : Except Refusal (Token × Cursor) :=
  match cur.next.taking isWordChar with
  | ([], _) => .error .malformed
  | (cs, cur) =>
    if atGap cur.rest || cur.head?.any "?:,]\x7d%@\x60".toList.contains then
      .ok (make (String.ofList cs), cur)
    else .error .malformed

def quotedToken (quote : Char) (cur : Cursor) : Except Refusal (Token × Cursor) :=
  (quoted quote cur).map (fun r => (.scalar r.1 false, r.2))

def plainToken (s : Scan) : Except Refusal Scan := do
  let s ← s.noteCandidate
  let (cs, cursor, ends) := plain (s.flow != 0) s.least s.cursor
  .ok ({ s with mayKey := ends }.take (.scalar cs true) cursor)

def blockToken (folds : Bool) (s : Scan) : Except Refusal Scan := do
  let s ← { s with mayKey := true }.dropCandidate
  let (cs, cursor) ← blockScalar folds s.least s.cursor
  .ok (s.take (.scalar cs false) cursor)

/-- Behind spaces, comments and line breaks. Outside brackets a key may begin on a new line. -/
def skipFrom : Nat → Scan → Scan
  | 0, s => s
  | fuel + 1, s =>
    let cur := s.cursor.skipping (· == ' ')
    let cur := if cur.head? == some '#' then cur.toLineEnd else cur
    match cur.lineBreak with
    | ([], _) => { s with cursor := cur }
    | (_, cursor) => skipFrom fuel { s with cursor, mayKey := s.mayKey || s.flow == 0 }

def skip (s : Scan) : Scan :=
  let cur := s.cursor
  let cursor := if cur.index == 0 && cur.head? == some byteOrderMark then cur.next else cur
  skipFrom (cursor.rest.length + 1) { s with cursor }

/-- The next token, or several: closed blocks come before it. The flag tells whether it is the last
one. -/
def step (s : Scan) : Except Refusal (Scan × Bool) := do
  let s ← s.skip.dropStale
  let s := s.close s.cursor.column
  let cur := s.cursor
  let go (s : Except Refusal Scan) : Except Refusal (Scan × Bool) := s.map (·, false)
  match cur.rest with
  | [] => do
    let s ← s.closeAll.dropCandidate
    .ok ({ s with candidates := [] }.push .streamEnd, true)
  | c :: rest =>
    let isFlow := s.flow != 0
    let isMarked (mark : Char) : Bool := c == mark && (isFlow || atGap rest)
    if c == '%' && cur.column == 0 then go do
      let s ← s.apart
      let (d, cursor) ← directive cur
      .ok (s.take (.directive d) cursor)
    else if cur.column == 0 && startsWith "---" cur.rest then
      go (do .ok ((← s.apart).take .documentStart (cur.advance 3)))
    else if cur.column == 0 && startsWith "..." cur.rest then
      go (do .ok ((← s.apart).take .documentEnd (cur.advance 3)))
    else if c == '[' then go (s.bracket .flowSequence)
    else if c == '\x7b' then go (s.bracket .flowMapping)
    else if c == ']' then go (s.bracketEnd .flowSequenceEnd)
    else if c == '\x7d' then go (s.bracketEnd .flowMappingEnd)
    else if c == ',' then go do
      let s ← { s with mayKey := true }.dropCandidate
      .ok (s.take .comma cur.next)
    else if c == '-' && atGap rest then go (s.mark .item .blockSequence true)
    else if isMarked '?' then go (s.mark .key .blockMapping (!isFlow))
    else if isMarked ':' then go s.colon
    else if c == '*' then go (s.leaf (name .alias))
    else if c == '&' then go (s.leaf (name .anchor))
    else if c == '!' then go (s.leaf (fun cur => (tagName cur).map (fun r => (.tag r.1, r.2))))
    else if (c == '|' || c == '>') && !isFlow then go (s.blockToken (c == '>'))
    else if c == '\x27' || c == '"' then go (s.leaf (quotedToken c))
    else if startsPlain isFlow cur.rest then go s.plainToken
    else .error .malformed

/-- The tokens that are certain when scanning stops: those before the first place that may be a
key. -/
def certain (s : Scan) : Array Token :=
  s.tokens.take ((s.candidates.map (fun entry => entry.2.token)).foldl min s.tokens.size)

/-- All tokens, or those before a refusal. Each step but the last goes on by a character. -/
def run : Nat → Scan → Array Token × Option Refusal
  | 0, s => (s.certain, some .malformed)
  | fuel + 1, s =>
    match s.step with
    | .ok (s, true) => (s.tokens, none)
    | .ok (s, false) => run fuel s
    | .error refusal => (s.certain, some refusal)

end Scan

def tokens (cs : List Char) : Array Token × Option Refusal :=
  Scan.run (cs.length + 1) { cursor := { rest := cs } }

end SchemaNaming.Yaml

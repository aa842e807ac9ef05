import SchemaNaming.Refusal
import SchemaNaming.Yaml.Cursor

/-!
Scalars that are blocks of indented lines: literal ones keep their line breaks, folded ones turn a
single line break between lines that begin with no blank into a space. A header says how the line
breaks at the end are kept and, if need be, where the lines begin.
-/

namespace SchemaNaming.Yaml

inductive Chomping where
  | clip
  | strip
  | keep
  deriving DecidableEq, Repr

def chomping? (c : Char) : Option Chomping :=
  if c == '+' then some .keep else if c == '-' then some .strip else none

/-- The depth of a block behind the depth of its parent, from one to nine. -/
def depth? (c : Char) : Option Nat :=
  if '1' ≤ c && c ≤ '9' then some (c.toNat - '0'.toNat) else none

def blockHeader (cur : Cursor) : Chomping × Option Nat × Cursor :=
  match cur.rest with
  | [] => (.clip, none, cur)
  | c :: rest =>
    match chomping? c, depth? c with
    | some chomping, _ =>
      match rest.head?.bind depth? with
      | some depth => (chomping, some depth, cur.advance 2)
      | none => (chomping, none, cur.next)
    | none, some depth =>
      match rest.head?.bind chomping? with
      | some chomping => (chomping, some depth, cur.advance 2)
      | none => (.clip, some depth, cur.next)
    | none, none => (.clip, none, cur)

/-- The empty lines before the first line of a block, and the greatest column reached in them. -/
def leadingLines : Nat → Nat → Cursor → List Char × Nat × Cursor
  | 0, deepest, cur => ([], deepest, cur)
  | fuel + 1, deepest, cur =>
    let cur := cur.skipping (· == ' ')
    let deepest := max deepest cur.column
    match cur.lineBreak with
    | ([], _) => ([], deepest, cur)
    | (ends, next) =>
      let (more, deepest, next) := leadingLines fuel deepest next
      (ends ++ more, deepest, next)

def toColumn (column : Nat) (cur : Cursor) : Cursor :=
  let spaces := (cur.rest.takeWhile (· == ' ')).length
  cur.advance (min spaces (column - cur.column))

def blockLines (indent : Nat) : Nat → Cursor → List Char × Cursor
  | 0, cur => ([], cur)
  | fuel + 1, cur =>
    let cur := toColumn indent cur
    match cur.lineBreak with
    | ([], _) => ([], cur)
    | (ends, next) =>
      let (more, next) := blockLines indent fuel next
      (ends ++ more, next)

def startsBlank (cur : Cursor) : Bool := cur.head?.any isBlank

/-- The lines of a block from one of them on, behind the line breaks of empty lines: its text, the
last line break and those of the empty lines at the end. -/
def blockFrom (folds : Bool) (indent : Nat) :
    Nat → Cursor → List Char × List Char × List Char × Cursor
  | 0, cur => ([], [], [], cur)
  | fuel + 1, cur =>
    let isText := !startsBlank cur
    let (line, cur) := cur.taking (fun c => !isBreak c)
    let (ends, cur) := cur.lineBreak
    let (more, cur) := blockLines indent (cur.rest.length + 1) cur
    if cur.column == indent && !cur.rest.isEmpty then
      let lead :=
        if folds && ends == ['\n'] && isText && !startsBlank cur then
          if more.isEmpty then [' '] else []
        else ends
      let (text, last, trailing, cur) := blockFrom folds indent fuel cur
      (line ++ lead ++ more ++ text, last, trailing, cur)
    else (line, ends, more, cur)

/-- The block scalar whose mark stands at a place, inside a parent whose entries have a column at
least one less than 'least'. -/
def blockScalar (folds : Bool) (least : Nat) (cur : Cursor) :
    Except Refusal (List Char × Cursor) := do
  let (chomping, depth, cur) := blockHeader cur.next
  if !atSpace cur.rest then .error .malformed
  else
    let cur ← found cur.pastLine?
    let least := max least 1
    let fuel := cur.rest.length + 1
    let (lead, indent, cur) := match depth with
      | some depth =>
        let indent := least + depth - 1
        let (lead, cur) := blockLines indent fuel cur
        (lead, indent, cur)
      | none =>
        let (lead, deepest, cur) := leadingLines fuel 0 cur
        (lead, max least deepest, cur)
    let (text, last, trailing, cur) :=
      if cur.column == indent && !cur.rest.isEmpty then
        let (text, last, trailing, cur) := blockFrom folds indent fuel cur
        (lead ++ text, last, trailing, cur)
      else ([], [], lead, cur)
    match chomping with
    | .strip => .ok (text, cur)
    | .clip => .ok (text ++ last, cur)
    | .keep => .ok (text ++ last ++ trailing, cur)

end SchemaNaming.Yaml

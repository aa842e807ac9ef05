import SchemaNaming.Refusal
import SchemaNaming.Yaml.Cursor

/-!
Tags say what kind of value a node is. A tag is written whole between angle brackets, or as a handle
and a suffix; a handle stands for a lead that a directive may set.
-/

namespace SchemaNaming.Yaml

/-- The kinds of values a document may ask for. -/
inductive Tag where
  | null
  | bool
  | int
  | float
  | text
  | binary
  | timestamp
  | list
  | dict
  | set
  /-- A list of pairs, each written as a mapping of one entry. -/
  | pairs
  /-- Marks the entry whose value holds entries to be merged. -/
  | merge
  /-- Marks the entry that stands for the whole mapping. -/
  | default
  | unknown
  deriving DecidableEq, Repr, Inhabited

namespace Tag

def standardLead : String := "tag:yaml.org,2002:"

def standard : List (String × Tag) :=
  [("null", .null), ("bool", .bool), ("int", .int), ("float", .float), ("str", .text),
   ("binary", .binary), ("timestamp", .timestamp), ("seq", .list), ("map", .dict), ("set", .set),
   ("omap", .pairs), ("pairs", .pairs), ("merge", .merge), ("value", .default)]

def ofText (s : String) : Tag :=
  ((standard.map (fun entry => (standardLead ++ entry.1, entry.2))).lookup s).getD .unknown

/-- Lists, mappings and the like, which cannot be keys. -/
def isCollection : Tag → Bool
  | .list | .dict | .set | .pairs => true
  | _ => false

end Tag

/-- A tag as written: whole, or with the handle of a lead. -/
structure TagName where
  handle : Option String
  suffix : String
  deriving DecidableEq, Repr, Inhabited

def standardHandles : List (String × String) := [("!", "!"), ("!!", Tag.standardLead)]

/-- The name that leaves the kind open. -/
def openName : String := "!"

def TagName.resolve (handles : List (String × String)) (t : TagName) : Except Refusal String :=
  match t.handle with
  | none => .ok t.suffix
  | some handle => (found (handles.lookup handle)).map (· ++ t.suffix)

def isWordChar (c : Char) : Bool := c.isAlphanum || c == '-' || c == '_'

def isUriChar (c : Char) : Bool := c.isAlphanum || "-;/?:@&=+$,_.!~*'()[]%".toList.contains c

/-- Bytes in hexadecimal digits, each behind a percent sign. -/
def percentBytes : Nat → Cursor → Except Refusal (List UInt8 × Cursor)
  | 0, cur => .ok ([], cur)
  | fuel + 1, cur =>
    match cur.rest with
    | '%' :: a :: b :: _ => do
      let high ← found (Json.hexValue? a)
      let low ← found (Json.hexValue? b)
      let (more, cur) ← percentBytes fuel (cur.advance 3)
      .ok ((16 * high + low).toUInt8 :: more, cur)
    | '%' :: _ => .error .malformed
    | _ => .ok ([], cur)

def uriFrom : Nat → Cursor → Except Refusal (List Char × Cursor)
  | 0, cur => .ok ([], cur)
  | fuel + 1, cur =>
    if cur.head? == some '%' then do
      let (bytes, cur) ← percentBytes fuel cur
      let part ← found (String.fromUTF8? (ByteArray.mk bytes.toArray))
      let (more, cur) ← uriFrom fuel cur
      .ok (part.toList ++ more, cur)
    else
      match cur.taking (fun c => isUriChar c && c != '%') with
      | ([], _) => .ok ([], cur)
      | (part, cur) => do
        let (more, cur) ← uriFrom fuel cur
        .ok (part ++ more, cur)

def uri (cur : Cursor) : Except Refusal (String × Cursor) := do
  let start := cur.index
  let (cs, cur) ← uriFrom (cur.rest.length + 1) cur
  if cur.index == start then .error .malformed else .ok (String.ofList cs, cur)

def handle (cur : Cursor) : Except Refusal (String × Cursor) :=
  match cur.rest with
  | '!' :: ' ' :: _ => .ok ("!", cur.next)
  | '!' :: _ => do
    let (word, cur) := cur.next.taking isWordChar
    if cur.head? == some '!' then .ok (String.ofList ('!' :: word ++ ['!']), cur.next)
    else .error .malformed
  | _ => .error .malformed

/-- Whether a second mark stands before the next space. -/
def hasHandle (cs : List Char) : Bool :=
  (cs.takeWhile (fun c => !(c == ' ' || isBreak c))).contains '!'

def tagName (cur : Cursor) : Except Refusal (TagName × Cursor) := do
  let after := cur.next
  let (tag, cur) ←
    if after.head? == some '<' then do
      let (suffix, cur) ← uri after.next
      if cur.head? == some '>' then .ok (⟨none, suffix⟩, cur.next) else .error .malformed
    else if atGap after.rest then .ok (⟨none, openName⟩, after)
    else if hasHandle after.rest then do
      let (handle, cur) ← handle cur
      let (suffix, cur) ← uri cur
      .ok (⟨some handle, suffix⟩, cur)
    else do
      let (suffix, cur) ← uri after
      .ok (⟨some "!", suffix⟩, cur)
  if atSpace cur.rest then .ok (tag, cur) else .error .malformed

inductive Directive where
  /-- The major number of the format's version. -/
  | version (major : Nat)
  | lead (handle text : String)
  | other
  deriving DecidableEq, Repr, Inhabited

def versionNumber (cur : Cursor) : Except Refusal (Nat × Cursor) := do
  match cur.taking Number.isDecimalDigit with
  | ([], _) => .error .malformed
  | (digits, cur) =>
    if Number.digitLimit < digits.length then .error .malformed
    else .ok (Number.digitsValue digits, cur)

def directive (cur : Cursor) : Except Refusal (Directive × Cursor) := do
  let (name, cur) := cur.next.taking isWordChar
  if name.isEmpty || !atSpace cur.rest then .error .malformed
  else
    let spaced (cur : Cursor) : Cursor := cur.skipping (· == ' ')
    let (d, cur) ← match String.ofList name with
      | "YAML" => do
        let (major, cur) ← versionNumber (spaced cur)
        if cur.head? == some '.' then
          let (_, cur) ← versionNumber cur.next
          if atSpace cur.rest then .ok (.version major, cur) else .error .malformed
        else .error .malformed
      | "TAG" => do
        let (handle, cur) ← handle (spaced cur)
        if cur.head? == some ' ' then
          let (text, cur) ← uri (spaced cur)
          if atSpace cur.rest then .ok (.lead handle text, cur) else .error .malformed
        else .error .malformed
      | _ => .ok (Directive.other, cur.toLineEnd)
    .ok (d, ← found cur.pastLine?)

end SchemaNaming.Yaml

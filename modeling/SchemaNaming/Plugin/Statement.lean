import SchemaNaming.Fault
import SchemaNaming.Json.Reader
import SchemaNaming.Plugin.Source
import SchemaNaming.Text.IdentifierChar
import SchemaNaming.Text.Search

/-!
Sources written as plain texts. Comments, statements without effect, assignments of literals, names
taken over from modules and classes that hold nothing else are understood, beside two kinds of
methods: one that answers every request with a number, and a constructor that hands a new instance to
the one above. A text with anything more is refused at its line. The text is cut into lexemes, the
lexemes are gathered in rows, and the margins of the rows show which of them belong to a class.
-/

namespace SchemaNaming.Plugin.Statement
open Text

inductive Lexeme where
  /-- The width of the blanks before a row. -/
  | margin (width : Nat)
  | word (name : String)
  | number (kind : String) (value : Option Int)
  /-- A literal text or literal bytes; bytes and texts with fields document nothing. -/
  | literal (kind : String) ( isDoc : Bool)
  | mark (c : Char)
  | stop
  deriving DecidableEq, Repr

abbrev Placed := Lexeme × Nat

/-- A tab goes on to the next multiple of eight; a form feed begins anew. -/
def marginOf (width : Nat) : List Char → Nat × List Char
  | ' ' :: rest => marginOf (width + 1) rest
  | '\t' :: rest => marginOf ((width / 8 + 1) * 8) rest
  | '\x0c' :: rest => marginOf 0 rest
  | rest => (width, rest)

/-- What stands behind the end of a literal text of one line, and the line there; without an end,
only the line. -/
def closeLine (quote : Char) (line : Nat) : List Char → Except Nat (List Char × Nat)
  | [] => .error line
  | '\\' :: c :: rest => closeLine quote (if c == '\n' then line + 1 else line) rest
  | c :: rest =>
    if c == quote then .ok (rest, line)
    else if c == '\n' then .error line
    else closeLine quote line rest

/-- The same for a literal text of several lines. -/
def closeTriple (quote : Char) (line : Nat) : List Char → Except Nat (List Char × Nat)
  | [] => .error line
  | ['\n'] => .error line
  | '\\' :: c :: rest => closeTriple quote (if c == '\n' then line + 1 else line) rest
  | c :: rest =>
    if c == quote && rest.take 2 == [quote, quote] then .ok (rest.drop 2, line)
    else closeTriple quote (if c == '\n' then line + 1 else line) rest

def close (quote : Char) (line : Nat) (cs : List Char) : Except Flaw (List Char × Nat) :=
  let isTriple := cs.take 2 == [quote, quote]
  let result := if isTriple then closeTriple quote line (cs.drop 2) else closeLine quote line cs
  result.mapError (fun last => ⟨.unterminated isTriple last, line⟩)

def textMarks : List String := ["r", "u", "b", "f", "br", "rb", "fr", "rf"]

def isDocMark (name : String) : Bool := ["r", "u"].contains name.toLower

/-- What such letters make of a text. -/
def markKind (name : String) : String :=
  if name.toLower.toList.contains 'b' then "bytes" else "str"

def isNumberPart (c : Char) : Bool := c.isAlphanum || c == '_' || c == '.'

def numberKind (digits : List Char) : String :=
  let isPart (c : Char) : Bool := digits.any (·.toLower == c)
  if isPart 'x' then "int"
  else if isPart 'j' then "complex"
  else if isPart '.' || (isPart 'e' && !isPart 'b') then "float"
  else "int"

/-- The value of digits in some base, which low lines may part. -/
def digitsValue? (base : Nat) (digits : List Char) : Option Nat :=
  (digits.filter (· != '_')).foldlM (fun n c => do
    let d ← Json.hexValue? c
    if d < base then some (base * n + d) else none) 0

def intValue? (digits : List Char) : Option Int :=
  match digits.map Char.toLower with
  | '0' :: 'x' :: digits => (digitsValue? 16 digits).map Int.ofNat
  | '0' :: 'o' :: digits => (digitsValue? 8 digits).map Int.ofNat
  | '0' :: 'b' :: digits => (digitsValue? 2 digits).map Int.ofNat
  | digits => (digitsValue? 10 digits).map Int.ofNat

def closing? (c : Char) : Option Char :=
  if c == '(' then some ')' else if c == '[' then some ']' else if c == '\x7b' then some '\x7d'
  else none

mutual

def scanRow (line : Nat) : Nat → List Char → Except Flaw (List Placed)
  | 0, _ => .ok []
  | fuel + 1, cs =>
    match marginOf 0 cs with
    | (_, []) => .ok []
    | (_, '\n' :: rest) => scanRow (line + 1) fuel rest
    | (_, '#' :: rest) => scanRow line fuel (rest.dropWhile (· != '\n'))
    | (width, rest) => do return (.margin width, line) :: (← scan line [] fuel rest)
termination_by structural fuel => fuel

/-- The lexemes inside a row. A row goes on while brackets are open; each is kept with its line. The
second number bounds the length. -/
def scan (line : Nat) (brackets : List (Char × Nat)) : Nat → List Char → Except Flaw (List Placed)
  | 0, _ => .ok []
  | _ + 1, [] =>
    match brackets with
    | [] => .ok [(.stop, line)]
    | (bracket, place) :: _ => .error ⟨.neverClosed bracket, place⟩
  | fuel + 1, c :: rest =>
    if c == '\n' then
      if brackets.isEmpty then do return (.stop, line) :: (← scanRow (line + 1) fuel rest)
      else scan (line + 1) brackets fuel rest
    else if c == ' ' || c == '\t' || c == '\x0c' then scan line brackets fuel rest
    else if c == '#' then scan line brackets fuel (rest.dropWhile (· != '\n'))
    else if c == '\\' && rest.head? == some '\n' then scan (line + 1) brackets fuel rest.tail
    else if c == '"' || c == '\x27' then do
      let (rest, last) ← close c line rest
      return (.literal "str" true, line) :: (← scan last brackets fuel rest)
    else if c.isDigit || (c == '.' && rest.head?.any Char.isDigit) then do
      let digits := c :: rest.takeWhile isNumberPart
      return (.number (numberKind digits) (intValue? digits), line) ::
        (← scan line brackets fuel (rest.dropWhile isNumberPart))
    else if isIdentifierStart c then
      let name := String.ofList (c :: rest.takeWhile isIdentifierPart)
      match rest.dropWhile isIdentifierPart with
      | q :: rest =>
        if (q == '"' || q == '\x27') && textMarks.contains name.toLower then do
          let (rest, last) ← close q line rest
          return (.literal (markKind name) (isDocMark name), line) :: (← scan last brackets fuel rest)
        else do return (.word name, line) :: (← scan line brackets fuel (q :: rest))
      | [] => do return (.word name, line) :: (← scan line brackets fuel [])
    else if (closing? c).isSome then do
      return (.mark c, line) :: (← scan line ((c, line) :: brackets) fuel rest)
    else do
      let left := match brackets with
        | (bracket, _) :: outer => if closing? bracket == some c then outer else brackets
        | [] => []
      return (.mark c, line) :: (← scan line left fuel rest)
termination_by structural fuel => fuel

end

structure Row where
  width : Nat
  line : Nat
  lexemes : List Lexeme
  deriving Repr

def gather (placed : Placed) (rows : List Row × List Lexeme) : List Row × List Lexeme :=
  match placed.1 with
  | .margin width => (⟨width, placed.2, rows.2⟩ :: rows.1, [])
  | .stop => (rows.1, [])
  | lexeme => (rows.1, lexeme :: rows.2)

def rowsOf (lexemes : List Placed) : List Row := (lexemes.foldr gather ([], [])).1

def keywords : List String :=
  ["False", "None", "True", "and", "as", "assert", "async", "await", "break", "class", "continue",
   "def", "del", "elif", "else", "except", "finally", "for", "from", "global", "if", "import", "in",
   "is", "lambda", "nonlocal", "not", "or", "pass", "raise", "return", "try", "while", "with",
   "yield"]

def isName (name : String) : Bool := !keywords.contains name

def signedKind (kind : String) : String := if kind == "bool" then "int" else kind

/-- The kind of a bracket and the kinds inside, each with the mark behind it. -/
def bracketKind (bracket : Char) (inside : List (String × Option Char)) : String :=
  if bracket == '[' then "list"
  else
    match inside with
    | [] => if bracket == '(' then "tuple" else "dict"
    | (kind, mark) :: _ =>
      if bracket == '(' then (if mark.isNone then kind else "tuple")
      else if mark == some ':' then "dict" else "set"

mutual

def operand : Nat → List Lexeme → Option (String × List Lexeme)
  | fuel + 1, .mark c :: rest =>
    if c == '-' || c == '+' || c == '~' then
      (operand fuel rest).map (fun r => (signedKind r.1, r.2))
    else if c == '.' then
      match rest with
      | .mark '.' :: .mark '.' :: rest => some ("ellipsis", rest)
      | _ => none
    else
      match closing? c with
      | some last => (operands last fuel rest).map (fun r => (bracketKind c r.1, r.2))
      | none => none
  | _, .number kind _ :: rest => some (kind, rest)
  | _, .literal kind _ :: rest =>
    some (kind, rest.dropWhile (fun lexeme => lexeme matches .literal ..))
  | _, .word name :: rest =>
    if name == "None" then some ("NoneType", rest)
    else if name == "True" || name == "False" then some ("bool", rest)
    else none
  | _, _ => none
termination_by structural fuel => fuel

/-- The literals before a closing bracket, and what follows it; a colon may stand for a comma. -/
def operands (last : Char) : Nat → List Lexeme →
    Option (List (String × Option Char) × List Lexeme)
  | 0, _ => none
  | fuel + 1, lexemes =>
    match lexemes with
    | .mark c :: rest =>
      if c == last then some ([], rest) else element last fuel (.mark c :: rest)
    | lexemes => element last fuel lexemes
termination_by structural fuel => fuel

def element (last : Char) : Nat → List Lexeme →
    Option (List (String × Option Char) × List Lexeme)
  | 0, _ => none
  | fuel + 1, lexemes => do
    let (kind, rest) ← operand fuel lexemes
    match rest with
    | .mark c :: rest =>
      if c == last then some ([(kind, none)], rest)
      else if c == ',' || (c == ':' && last == '\x7d') then
        (operands last fuel rest).map (fun r => ((kind, some c) :: r.1, r.2))
      else none
    | _ => none
termination_by structural fuel => fuel

end

def bindings (names : List String) (kind : String) : List Item :=
  names.reverse.map (.const · (.ofKind kind))

def dottedName? : List Lexeme → Option (String × List Lexeme)
  | .word name :: .mark '.' :: rest =>
    if isName name then (dottedName? rest).map (fun r => (name ++ "." ++ r.1, r.2)) else none
  | .word name :: rest => if isName name then some (name, rest) else none
  | _ => none

def names? : List Lexeme → Option (List String)
  | [.word name] => if isName name then some [name] else none
  | .word name :: .mark ',' :: rest =>
    if isName name then (names? rest).map (name :: ·) else none
  | _ => none

/-- Names that are taken over from a module. -/
def takes? : List Lexeme → Option (List Item)
  | .word "from" :: rest => do
    match ← dottedName? rest with
    | (module, .word "import" :: rest) => return (← names? rest).map (.take module)
    | _ => none
  | _ => none

/-- A statement of one row: the names that it assigns to come before a literal. -/
def simple (names : List String) : List Lexeme → Option (List Item)
  | .word name :: .mark '=' :: rest =>
    if isName name then simple (name :: names) rest else none
  | lexemes =>
    match lexemes, names with
    | [.word "pass"], [] => some []
    | .word "from" :: rest, [] => takes? (.word "from" :: rest)
    | lexemes, names =>
      match operand (2 * lexemes.length + 2) lexemes with
      | some (kind, []) => some (bindings names kind)
      | _ => none

def splitStatements : List Lexeme → List (List Lexeme)
  | [] => [[]]
  | lexeme :: rest =>
    if lexeme == .mark ';' then [] :: splitStatements rest
    else
      match splitStatements rest with
      | [] => [[lexeme]]
      | first :: more => (lexeme :: first) :: more

/-- The statements of one row; nothing needs to follow the last semicolon. -/
def simples (row : Row) (lexemes : List Lexeme) : Except Flaw (List Item) := do
  let parts := splitStatements lexemes
  let parts := if parts.getLast? == some [] then parts.dropLast else parts
  if parts.isEmpty then .error ⟨.invalid, row.line⟩
  else
    let items ← parts.mapM (fun part =>
      match simple [] part with
      | some items => .ok items
      | none => .error ⟨.invalid, row.line⟩)
    return items.flatten

def classHead? : List Lexeme → Option (String × Declaration × List Lexeme)
  | .word "class" :: .word name :: rest =>
    if !isName name then none
    else
      match rest with
      | .mark ':' :: rest => some (name, {}, rest)
      | .mark '(' :: .mark ')' :: .mark ':' :: rest => some (name, {}, rest)
      | .mark '(' :: .word parent :: .mark ')' :: .mark ':' :: rest =>
        if !isName parent then none
        else some (name, { parent := some parent }, rest)
      | _ => none
  | _ => none

def method? : List Lexeme → Option (Declaration → Declaration)
  | .word "def" :: .word name :: .mark '(' :: .word _ :: rest =>
    match name, rest with
    | "generate", [.mark ',', .mark '*', .word _, .mark ')', .mark ':', .word "return",
        .number "int" (some n)] => some ({ · with script := some (.constant (.int n)) })
    | "__init__", [.mark ')', .mark ':', .word "super", .mark '(', .mark ')', .mark '.',
        .word "__init__", .mark '(', .word inner, .mark '(', .mark ')', .mark ')'] =>
      if isName inner then some ({ · with wraps := some inner }) else none
    | _, _ => none
  | _ => none

/-- A declaration with what the methods of its class say, which stand in rows of some margin. -/
def withMethods (width : Nat) (rows : List Row) (d : Declaration) : Declaration :=
  rows.foldl (fun d row =>
    if row.width == width then ((method? row.lexemes).map (· d)).getD d else d) d

def documented (rows : List Row) (items : List Item) : List Item :=
  match rows with
  | { lexemes := .literal _ true :: _, .. } :: _ => .const docName (.ofKind "str") :: items
  | _ => items

mutual

/-- The rows of one body, and the rows behind it. The first number bounds the rows. -/
def body (width : Nat) : Nat → List Row → Except Flaw (List Item × List Row)
  | 0, rows => .ok ([], rows)
  | _ + 1, [] => .ok ([], [])
  | fuel + 1, row :: rest =>
    if row.width < width then .ok ([], row :: rest)
    else if width < row.width then .error ⟨.unexpectedIndent, row.line⟩
    else do
      let (items, rest) ← statement row fuel rest
      let (more, rest) ← body width fuel rest
      return (items ++ more, rest)
termination_by structural fuel => fuel

def statement (row : Row) : Nat → List Row → Except Flaw (List Item × List Row)
  | 0, rows => .ok ([], rows)
  | fuel + 1, rest =>
    match classHead? row.lexemes with
    | none =>
      if 0 < row.width && (method? row.lexemes).isSome then .ok ([], rest)
      else do return (← simples row row.lexemes, rest)
    | some (name, declaration, []) =>
      match rest with
      | [] => .error ⟨.missingBlock row.line, row.line⟩
      | next :: _ =>
        if next.width ≤ row.width then .error ⟨.missingBlock row.line, next.line⟩
        else do
          let (items, after) ← body next.width fuel rest
          let inside := rest.take (rest.length - after.length)
          let declaration := withMethods next.width inside declaration
          match after with
          | later :: _ =>
            if row.width < later.width then .error ⟨.unmatchedDedent, later.line⟩
            else return ([.cls name declaration (documented rest items)], after)
          | [] => return ([.cls name declaration (documented rest items)], after)
    | some (name, declaration, inside) => do
      return ([.cls name declaration (← simples row inside)], rest)
termination_by structural fuel => fuel

end

def read (s : String) : Except Flaw (List Item) := do
  let cs := withPlainLines s.toList
  let cs := if cs.head? == some '\ufeff' then cs.tail else cs
  if cs.contains '\x00' then .error { reason := .nullByte }
  else
    let rows := rowsOf (← scanRow 1 (2 * cs.length + 2) cs)
    let (items, _) ← body 0 (2 * rows.length + 2) rows
    return documented rows items

def strayByte? (before : List UInt8) : List UInt8 → Option (List UInt8 × UInt8)
  | [] => none
  | byte :: rest =>
    if byte < 0x80 then strayByte? (byte :: before) rest
    else
      match [2, 3, 4].find? (fun n =>
          (String.fromUTF8? (ByteArray.mk ((byte :: rest).take n).toArray)).isSome) with
      | some n => strayByte? (((byte :: rest).take n).reverse ++ before) (rest.drop (n - 1))
      | none => some (before, byte)
termination_by data => data.length
decreasing_by all_goals simp only [List.length_drop, List.length_cons]; omega

/-- Bytes that are no text: the flaw stands in the word of the first stray byte. -/
def flawOfBytes (data : List UInt8) : Flaw :=
  match strayByte? [] data with
  | none => {}
  | some (before, byte) =>
    let inWord (b : UInt8) : Bool := isIdentifierPart (Char.ofNat b.toNat) || 0x80 ≤ b
    ⟨.undecodable byte.toNat (before.takeWhile inWord).length, before.count 10 + 1⟩

end SchemaNaming.Plugin.Statement

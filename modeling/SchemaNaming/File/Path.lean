import SchemaNaming.Text.Search

/-!
Path texts. A path is a list of names between slashes; empty names and single dots change nothing.
-/

namespace SchemaNaming.Path
open Text

def names (path : String) : List String := (divide ['/'] path.toList).map String.ofList

def isAbsolute (path : String) : Bool := path.toList.head? == some '/'

def ofLocation (names : List String) : String := "/" ++ "/".intercalate names

/-- The last name of a path; empty behind a final slash. -/
def baseName (path : String) : String := String.ofList (afterLast '/' path.toList)

def directory (path : String) : String :=
  match divideLast? '/' path.toList with
  | none => ""
  | some (head, _) =>
    let trimmed := trimRight (· == '/') head
    String.ofList (if trimmed.isEmpty then head ++ ['/'] else trimmed)

def stem (name : String) : String :=
  let cs := name.toList
  let dots := cs.takeWhile (· == '.')
  match divideLast? '.' (cs.drop dots.length) with
  | some (front, _) => String.ofList (dots ++ front)
  | none => name

/-- The extension of a name, with its point; a point at either end begins none. -/
def extension (name : String) : String :=
  match divideLast? '.' name.toList with
  | some (front, tail) => if front.isEmpty || tail.isEmpty then "" else String.ofList ('.' :: tail)
  | none => ""

def slashes (path : String) : Nat := (path.toList.takeWhile (· == '/')).length

/-- Names that say where a path leads, parent names among them. -/
def steps (path : String) : List String :=
  (names path).filter (fun name => name != "" && name != ".")

/-- The plain text of a path, without repeated slashes and single dots. Two slashes at the front
are kept. -/
def plain (path : String) : String :=
  let root := if slashes path == 2 then "//" else if slashes path == 0 then "" else "/"
  let text := root ++ "/".intercalate (steps path)
  if text.isEmpty then "." else text

def joined (parent name : String) : String :=
  if parent.isEmpty || parent.endsWith "/" then parent ++ name else parent ++ "/" ++ name

end SchemaNaming.Path

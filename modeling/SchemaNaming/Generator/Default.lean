import SchemaNaming.Generator.Basic
import SchemaNaming.Identifier.Casing
import SchemaNaming.Identifier.Unique
import SchemaNaming.Normalizer

/-!
The default base generators. They spell out operators, generic hints and punctuation and pick the
best available source of a name; separators and letter case are left to the decorators.
-/

namespace SchemaNaming.Default
open Text Identifier

def operatorNames : List (String × String) :=
  [("=", "Eq"), ("!=", "Ne"), (">", "Gt"), ("<", "Lt"), (">=", "Ge"), ("<=", "Le"),
   ("~=", "Approx")]

def genericSpelling : List (String × String) :=
  [("[", " Of "), ("]", " "), ("<", " Of "), (">", " "), (",", " And ")]

def propertySpelling : List (String × String) :=
  [("\"", ""), ("?", ""), ("$", ""), ("[", ""), ("]", ""), ("(", "_"), (")", ""), ("=", "-"),
   ("+", "plus"), ("*", "Star"), ("#", "_")]

/-- The declared name, else the text of the value, else nothing. -/
def enumRaw (name : Option String) (value : Value) : String :=
  match name with
  | some name => name
  | none =>
    match value with
    | .null => ""
    | value => value.display

def enumRaw? (name : Option String) (value : Value) : Option String :=
  if name.isNone && value.hasLongInteger then none else some (enumRaw name value)

/-- What is said of a member without a name, as far as its index can be written. -/
def unnamed (index : Int) (name : Option String) : Fault :=
  match (Value.int index).shown? with
  | some shown =>
    .naming (.slot .enum) (Value.ofText? name)
      ("enum member " ++ shown ++ " has no name or value")
  | none => .mishap .digitLimit

def enumName (index : Int) (name : Option String) (value : Value) : Except Fault String :=
  match enumRaw? name value with
  | none => .error (.mishap .digitLimit)
  | some raw =>
    if raw.isEmpty then .error (unnamed index name)
    else
      match operatorNames.lookup raw with
      | some word => .ok word
      | none => .ok (String.ofList (replace ['"'] [] raw.toList))

def documentStem (path : List Char) : List Char :=
  let path := path.map (fun c => if c == '\\' then '/' else c)
  let name := afterLast '/' (trimRight (· == '/') path)
  match divideLast? '.' name with
  | some (stem, _) => stem
  | none => name

/-- The hint, else a usable title, else the stem of the document path. -/
def typeHint (schema : Schema) (hint : Option String) : List Char :=
  let hint := (hint.getD "").toList
  let hint :=
    if hint.isEmpty && schema.hasTypeNameTitle then (schema.title.getD "").toList else hint
  let path := (schema.documentPath.getD "").toList
  if hint.isEmpty && !path.isEmpty then documentStem path else hint

/-- The words of a spelled hint, each by its last dotted part, in camel case. -/
def typeBody (hint : List Char) : List Char :=
  let parts := (words (Normalizer.replaceInTurn genericSpelling hint)).map (afterLast '.')
  parts.flatMap capitalize

def anonymousName : String := "Anonymous"

def typeName (schema : Schema) (hint : Option String) (reserved : List String) : String :=
  let body := typeBody (typeHint schema hint)
  uniqueName (if body.isEmpty then anonymousName else String.ofList body) reserved

def propertyName (name : Option String) : Except Fault String :=
  let raw := name.getD ""
  if raw.isEmpty then
    .error (.naming (.slot .property) (Value.ofText? name) "property has no name")
  else .ok (String.ofList (Normalizer.replaceInTurn propertySpelling raw.toList))

def className (slot : Slot) : String := "Default" ++ slot.contractName

/-- A default generator refuses the arguments of another slot. -/
def reply (slot : Slot) (request : Request) : Reply :=
  if request.slot = slot then
    match request with
    | .enum index name value _ => { result := ((enumName index name value).mapError .of).map .text }
    | .type schema hint reserved => .name (typeName schema hint reserved.read.1)
    | .property name => { result := ((propertyName name).mapError .of).map .text }
  else .fault (wrongArguments (className slot) slot request.slot)

def base (slot : Slot) : Base := .stateless (reply slot)

end SchemaNaming.Default

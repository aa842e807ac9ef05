import SchemaNaming.Fault
import SchemaNaming.Text.Words

/-!
Type descriptors: a full type name, or an assembly and a type name with a colon between them. The
last colon divides, so an assembly may hold colons itself. Whitespace around the whole and around
each part is dropped.
-/

namespace SchemaNaming
open Text

structure Descriptor where
  text : String
  typeName : String
  assembly : Option String
  deriving DecidableEq, Repr, Inhabited

namespace Descriptor

def parts (name : String) : List String :=
  (divide ['.'] name.toList).map String.ofList

def dotted (names : List String) : String := Value.joined "." names

/-- The stripped type name, and the stripped assembly before the last colon if there is one. -/
def split (cs : List Char) : Option (List Char) × List Char :=
  match divideLast? ':' cs with
  | some (assembly, typeName) => (some (strip assembly), strip typeName)
  | none => (none, strip cs)

def ofText (s : String) : Except Fault Descriptor :=
  let cs := strip s.toList
  let text := String.ofList cs
  if cs.isEmpty then .error (.typeNotFound s "" .emptyDescriptor)
  else
    let (assembly, typeName) := split cs
    let name := String.ofList typeName
    let refuse (reason : TypeReason) : Except Fault Descriptor :=
      .error (.typeNotFound text name reason)
    if assembly = some [] then refuse .emptyAssembly
    else if typeName.isEmpty then refuse .emptyTypeName
    else if (divide ['.'] typeName).any (·.isEmpty) then refuse .malformedTypeName
    else .ok { text, typeName := name, assembly := assembly.map String.ofList }

/-- A configured value as a descriptor; only texts can be one. Bytes can be blank, no more. -/
def ofValue (v : Value) : Except Fault Descriptor :=
  match v with
  | .text s => ofText s
  | .bytes data =>
    if data.all (fun b => b == 0x20 || (9 ≤ b && b ≤ 13)) then
      if data.isEmpty then ofText "" else .error (.typeNotFound v.shown "" .emptyDescriptor)
    else .error (.mishap .notSearchable)
  | v => if v.isTrue then .error (.noAttribute (.instance v.kindName) "strip") else ofText ""

end Descriptor

end SchemaNaming

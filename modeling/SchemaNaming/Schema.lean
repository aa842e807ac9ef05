import SchemaNaming.Value.Basic
import SchemaNaming.Text.Words

/-!
The part of a schema that names are made from.
-/

namespace SchemaNaming

structure Schema where
  title : Option String := none
  documentPath : Option String := none
  enumeration : List Value := []
  /-- Declared member names by position; a missing one leaves the member to its value. -/
  enumerationNames : List (Option String) := []
  deriving Inhabited

/-- A title serves as a type name when it is not empty and no space stands inside it. -/
def Schema.hasTypeNameTitle (schema : Schema) : Bool :=
  match schema.title with
  | none => false
  | some title => !title.isEmpty && !(Text.strip title.toList).contains ' '

end SchemaNaming

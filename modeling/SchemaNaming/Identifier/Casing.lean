import SchemaNaming.Identifier.Basic
import SchemaNaming.Text.Search

/-!
Camel case: the segments between separators, each with its first character in upper case, joined
without gaps. A result that does not begin with a letter gets a prefix.
-/

namespace SchemaNaming.Identifier
open Text

def capitalize : List Char → List Char
  | [] => []
  | c :: rest => upper c ++ rest

/-- An empty text stays empty. -/
def leadWithLetter (lead cs : List Char) : List Char :=
  if cs.isEmpty || isLetterLed cs then cs else lead ++ cs

def camelBody (separator cs : List Char) : List Char :=
  (divide separator cs).flatMap capitalize

/-- The separator must not be empty. -/
def camelCase (separator lead cs : List Char) : List Char :=
  leadWithLetter lead (camelBody separator cs)

end SchemaNaming.Identifier

import SchemaNaming.Text.Letter
import SchemaNaming.Text.IdentifierChar
import SchemaNaming.Text.Numeric
import SchemaNaming.Text.Case

/-!
Identifiers and the upper camel form: an identifier that begins with a letter equal to its own
upper case.
-/

namespace SchemaNaming.Identifier
open Text

/-- May head a segment: starts an identifier, or is a digit that may follow inside one. -/
def isSegmentStart (c : Char) : Bool :=
  isIdentifierStart c || (isDigit c && isIdentifierPart c)

def isIdentifier : List Char → Bool
  | [] => false
  | c :: rest => isIdentifierStart c && rest.all isIdentifierPart

def isLetterLed : List Char → Bool
  | [] => false
  | c :: _ => isLetter c

def hasUpperHead : List Char → Bool
  | [] => false
  | c :: _ => upper c == [c]

def isUpperCamel (cs : List Char) : Bool :=
  isIdentifier cs && isLetterLed cs && hasUpperHead cs

end SchemaNaming.Identifier

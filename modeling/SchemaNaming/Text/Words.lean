import SchemaNaming.Text.Blank
import SchemaNaming.Text.Search

/-!
Words are the nonempty runs between whitespace; stripping removes whitespace from both ends.
-/

namespace SchemaNaming.Text

def words (cs : List Char) : List (List Char) :=
  (divideAt isBlank cs).filter (fun segment => !segment.isEmpty)

def strip (cs : List Char) : List Char := trim isBlank cs

def stripped (s : String) : String := String.ofList (strip s.toList)

end SchemaNaming.Text

import SchemaNaming.Identifier.Basic
import SchemaNaming.Text.Blank

/-!
Cleaning drops what no identifier can show. Whitespace becomes the separator, kept characters stay
as they are, and a character that may only follow is dropped at the head of a segment.
-/

namespace SchemaNaming.Identifier
open Text

/-- Separators and kept characters are texts of any length; only those of length one ever match. -/
def cleanFrom (separator : List Char) (keep : List (List Char)) : Bool → List Char → List Char
  | _, [] => []
  | atHead, c :: rest =>
    if isBlank c || [c] == separator then separator ++ cleanFrom separator keep true rest
    else if keep.contains [c] then c :: cleanFrom separator keep false rest
    else if isIdentifierPart c && (!atHead || isSegmentStart c) then
      c :: cleanFrom separator keep false rest
    else cleanFrom separator keep atHead rest

def clean (separator : List Char) (keep : List (List Char)) (cs : List Char) : List Char :=
  cleanFrom separator keep true cs

end SchemaNaming.Identifier

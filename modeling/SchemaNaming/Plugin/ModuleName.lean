import SchemaNaming.Digest
import SchemaNaming.File.Path
import SchemaNaming.Text.Letter
import SchemaNaming.Text.Numeric
import SchemaNaming.Text.Quoted

/-!
Names of modules loaded from files: the stem of the path in identifier characters, followed by a
digest of the whole path, so that two files of one name get two modules.
-/

namespace SchemaNaming.Plugin
open Text

/-- What a source is executed as. -/
inductive Assembly where
  /-- Given by a path: what has this real path. -/
  | path (real : String)
  /-- A module of a dotted name. -/
  | name (dotted : String)
  deriving DecidableEq, Repr

def nameLead : String := "namegen_plugin_"

def stemChar (c : Char) : Char := if isLetter c || isNumeric c || c == '_' then c else '_'

def pathDigest (path : String) : String :=
  let bytes := Digest.sha1 path.toUTF8.data.toList
  String.ofList ((bytes.take 4).flatMap (fun b => hexDigits 2 b.toNat))

def moduleNameForPath (path : String) : String :=
  let trimmed := String.ofList (trimRight (· == '/') path.toList)
  let stem := (Path.stem (Path.baseName trimmed)).toList.map stemChar
  nameLead ++ String.ofList stem ++ "_" ++ pathDigest path

/-- The name under which the module stands in the table. -/
def Assembly.moduleName : Assembly → String
  | .path real => moduleNameForPath real
  | .name dotted => dotted

end SchemaNaming.Plugin

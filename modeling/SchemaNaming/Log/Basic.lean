import SchemaNaming.Text.Case

/-!
Log records, their levels and the names of loggers. Loggers form a tree below one root; a level of
zero leaves the decision to the default threshold.
-/

namespace SchemaNaming.Log

def debug : Nat := 10
def info : Nat := 20
def warning : Nat := 30
def error : Nat := 40
def critical : Nat := 50

/-- What is enabled at level zero. -/
def defaultThreshold : Nat := warning

def levelNames : List (String × Nat) :=
  [("CRITICAL", critical), ("FATAL", critical), ("ERROR", error), ("WARNING", warning),
   ("WARN", warning), ("INFO", info), ("DEBUG", debug), ("NOTSET", 0)]

/-- What a name in capitals means to the log, where names of levels are not kept apart from others. -/
inductive Meaning where
  | level (n : Nat)
  /-- A format of records. -/
  | format (text : String)
  /-- The table of styles of formats, as it is shown. -/
  | styles (shown : String)
  deriving DecidableEq, Repr

def basicFormat : String := "%(levelname)s:%(name)s:%(message)s"

/-- The styles by their marks, each with its format. -/
def shownStyles : String :=
  let braced := "\x7blevelname\x7d:\x7bname\x7d:\x7bmessage\x7d"
  "\x7b'%': (<class 'logging.PercentStyle'>, '" ++ basicFormat ++ "'), " ++
    "'\x7b': (<class 'logging.StrFormatStyle'>, '" ++ braced ++ "'), " ++
    "'$': (<class 'logging.StringTemplateStyle'>, '$\x7blevelname\x7d:$\x7bname\x7d:$\x7bmessage\x7d')\x7d"

/-- The meaning of a name in any letter case; an unknown name means the level of information. -/
def meaning (name : String) : Meaning :=
  let name := String.ofList (Text.upperText name.toList)
  if name == "BASIC_FORMAT" then .format basicFormat
  else if name == "_STYLES" then .styles shownStyles
  else .level ((levelNames.lookup name).getD info)

/-- The name a record shows for its level. -/
def levelName (level : Nat) : String :=
  ((levelNames.find? (fun entry => entry.2 == level)).map (·.1)).getD ("Level " ++ toString level)

def rootName : String := "namegen"

/-- Every logger stands below the root; a name that does not gets the root in front. -/
def loggerName (name : String) : String :=
  if name == rootName || (rootName ++ ".").isPrefixOf name then name
  else rootName ++ "." ++ name

structure Record where
  level : Nat
  logger : String
  message : String
  deriving DecidableEq, Repr, Inhabited

end SchemaNaming.Log

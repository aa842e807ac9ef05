import SchemaNaming.Host
import SchemaNaming.Identifier.Basic
import SchemaNaming.Json.Reader
import SchemaNaming.Yaml.Reader

/-!
Loading of configurations. The file is the one asked for, else the one that the environment names,
else the one in the current directory. A file that is missing or holds no mapping gives the
defaults; a naming option that could spoil a name gives way to its default. Variables of the
environment come before the descriptors of the file.
-/

namespace SchemaNaming.Config
open Text

def logger : String := "namegen.utils.config"

def fileVariable : String := "NAMEGEN_CONFIG"

def overrideVariable (slot : Slot) : String := "NAMEGEN_" ++ slot.constantName ++ "_NAME_GENERATOR"

def defaultYaml : String := "namegen.yaml"
def defaultJson : String := "namegen.json"

def defaultPath (h : Host) : String :=
  let yaml := Path.ofLocation (h.base ++ [defaultYaml])
  if (h.files.locate [] yaml).isOk then yaml else Path.ofLocation (h.base ++ [defaultJson])

def nonempty? (s : Option String) : Option String := s.filter (fun s => !s.isEmpty)

def pathFor (h : Host) (given : Option String) : String :=
  match (nonempty? given).or (nonempty? (h.fromEnvironment? fileVariable)) with
  | some path => Path.plain path
  | none => defaultPath h

def isYaml (path : String) : Bool :=
  let name := Path.baseName path
  [".yaml", ".yml"].contains (String.ofList (lowerText (Path.extension name).toList))

inductive Reading where
  | absent
  | unreadable (reason : String)
  | other
  | mapping (entries : List (Value × Value))
  deriving Inhabited

def parse (path s : String) : Except Refusal Value :=
  let s := String.ofList (withPlainLines s.toList)
  if isYaml path then Yaml.read s else Json.read s

/-- A document that only breaks the rules of its format is no fault. -/
def readText (path s : String) : Except Fault Reading :=
  match parse path s with
  | .error .malformed => .ok (.unreadable "the document is malformed")
  | .error (.fault fault) => .error fault
  | .ok v =>
    match v.bare with
    | .dict entries => .ok (.mapping entries)
    | _ => .ok .other

def readFile (h : Host) (path : String) : Except Fault Reading := do
  if Host.hasNull path then return .absent
  else if !(← (h.files.holds h.base path).mapError (.file · path)) then return .absent
  else
    match h.files.content? h.base path with
    | some (.text s) => readText path s
    | some (.source _) => return .unreadable "the document is malformed"
    | some (.binary _) => return .unreadable "the file holds no text"
    | none => return .unreadable FileReason.isDirectory.text

def readingRecord (path : String) : Reading → Log.Record
  | .absent =>
    { level := Log.warning, logger
      message := "Configuration file " ++ path ++ " not found, using defaults" }
  | .unreadable reason =>
    { level := Log.error, logger
      message := "Failed to load configuration from " ++ path ++ ": " ++ reason }
  | .other =>
    { level := Log.error, logger
      message := "Configuration in " ++ path ++ " is not a mapping, using defaults" }
  | .mapping _ =>
    { level := Log.info, logger, message := "Loaded configuration from " ++ path }

def Reading.entries : Reading → List (Value × Value)
  | .mapping entries => entries
  | _ => []

/-- A section of the file; one that counts as false is empty. -/
def sectionOf (entries : List (Value × Value)) (name : String) : Value :=
  match Value.get? name entries with
  | some v => if v.isTrue then v.bare else .dict []
  | none => .dict []

/-- A field of a section, which has to be a mapping. -/
def fieldOf (part : Value) (key : String) : Except Fault (Option Value) :=
  match part with
  | .dict entries => .ok (Value.get? key entries)
  | v => .error (.noAttribute (.instance v.kindName) "get")

def overrideKey (slot : Slot) : String := slot.name.toLower ++ "_name_generator_type"

def overrideOf (h : Host) (part : Value) (slot : Slot) : Except Fault Value :=
  match nonempty? (h.fromEnvironment? (overrideVariable slot)) with
  | some descriptor => .ok (.text descriptor)
  | none => (fieldOf part (overrideKey slot)).map (·.getD .null)

def overridesOf (h : Host) (entries : List (Value × Value)) : Except Fault Overrides := do
  let part := sectionOf entries "generators"
  let type ← overrideOf h part .type
  let property ← overrideOf h part .property
  let enum ← overrideOf h part .enum
  return { type, property, enum }

/-- One character that no identifier holds and no slot replaces after casing. -/
def isSeparator : Value → Bool
  | .text s =>
    match s.toList with
    | [c] => !isIdentifierPart c && c != '.'
    | _ => false
  | _ => false

/-- An identifier that begins with a letter. -/
def isDigitPrefix : Value → Bool
  | .text s => Identifier.isIdentifier s.toList && Identifier.isLetterLed s.toList
  | _ => false

def invalidRecord (what : String) (v : Value) (default : String) : Log.Record :=
  { level := Log.warning, logger
    message := "Invalid " ++ what ++ " " ++ v.shown ++ ", using '" ++ default ++ "'" }

/-- An option that passes its test, or the default with a warning. -/
def accepted (test : Value → Bool) (what default : String) (v : Value) : Run Host Value :=
  if test v then return v
  else if v.hasLongInteger then Run.fault (.mishap .digitLimit)
  else do
    Host.emit (invalidRecord what v default)
    return .text default

def namingOf (entries : List (Value × Value)) : Run Host NamingOptions := do
  let part := sectionOf entries "naming"
  let separator ← Run.check (fieldOf part "separator")
  let separator ← accepted isSeparator "separator" "-" (separator.getD (.text "-"))
  let digitPrefix ← Run.check (fieldOf part "digit_prefix")
  let digitPrefix ← accepted isDigitPrefix "digit prefix" "N" (digitPrefix.getD (.text "N"))
  return { separator, digitPrefix }

def loggingOf (h : Host) (entries : List (Value × Value)) : Except Fault LogOptions := do
  let part := sectionOf entries "logging"
  let level := (← fieldOf part "level").getD .null
  let level : Value :=
    if level.isTrue then level else .text ((h.fromEnvironment? Host.levelVariable).getD "INFO")
  let fileLogging := (← fieldOf part "enable_file_logging").getD (.bool false)
  let file := (← fieldOf part "log_file").getD (.text "namegen.log")
  return { level, fileLogging, file }

/-- Reads a configuration; an absent or empty path leaves the choice to the environment. -/
def read (given : Option String) : Run Host Config := do
  let h ← Run.get
  let path := pathFor h given
  let reading ← Run.check (readFile h path)
  Host.emit (readingRecord path reading)
  let overrides ← Run.check (overridesOf h reading.entries)
  let naming ← namingOf reading.entries
  let logging ← Run.check (loggingOf h reading.entries)
  return { path, overrides, naming, logging }

/-- A new configuration, known by its number. -/
def load (given : Option String) : Run Host Nat := do
  let config ← read given
  let h ← Run.get
  Run.modify (fun h => { h with configs := h.configs.push config })
  return h.configs.size

/-- How the shared configuration appears among the names of the module of configurations. -/
def appearance : Option Nat → Plugin.Thing
  | none => .null
  | some _ =>
    .item (Plugin.classNumber "NamegenConfig")
      [("config_file", .ofKind "PosixPath"), ("_config_data", .ofKind "dict"),
       ("generators", .ofKind "GeneratorConfig"), ("naming", .ofKind "NamingConfig"),
       ("logging", .ofKind "LoggingConfig")]

/-- Makes a configuration, or none, the shared one. -/
def share (id : Option Nat) : Run Host Unit :=
  Run.modify (fun h =>
    { h with
      globalConfig := id
      plugins := h.plugins.setAttribute (Plugin.moduleNumber "namegen.utils.config")
        "_global_config" (appearance id) })

/-- The configuration shared by everyone, loaded at its first use. -/
def shared : Run Host Nat := do
  match (← Run.get).globalConfig with
  | some id => return id
  | none =>
    let id ← load none
    share (some id)
    return id

def ofNumber (id : Nat) : Run Host Config := do
  return (← Run.get).configs.getD id default

/-- Sets up the log as a configuration asks. -/
def applyLogging (c : Config) : Run Host Unit :=
  Host.setupLogging c.logging.level (if c.logging.fileLogging.isTrue then c.logging.file else .null)

end SchemaNaming.Config

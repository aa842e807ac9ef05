import SchemaNaming.Config.Load
import SchemaNaming.Json.Printer
import SchemaNaming.Yaml.Printer

/-!
Saving of configurations: one mapping with a mapping for each section, in the format that the name
of the file asks for.
-/

namespace SchemaNaming.Config

def mapping (fields : List (String × Value)) : List (Value × Value) :=
  fields.map (fun field => (.text field.1, field.2))

def overridesSection (o : Overrides) : Value :=
  .dict (mapping (Overrides.order.map (fun slot => (overrideKey slot, o.get slot))))

def namingSection (n : NamingOptions) : Value :=
  .dict (mapping [("separator", n.separator), ("digit_prefix", n.digitPrefix)])

def loggingSection (l : LogOptions) : Value :=
  .dict (mapping
    [("level", l.level), ("enable_file_logging", l.fileLogging), ("log_file", l.file)])

def toEntries (c : Config) : List (Value × Value) :=
  mapping
    [("version", .text "1.0"), ("description", .text "namegen configuration"),
     ("generators", overridesSection c.overrides), ("naming", namingSection c.naming),
     ("logging", loggingSection c.logging)]

/-- The text of the file, up to a value that has no place in it. -/
def document (c : Config) : Json.Written :=
  if isYaml c.path then .ofExcept (Yaml.document c.toEntries)
  else Json.document (.dict c.toEntries)

def saveRecord (c : Config) : Option FileReason → Log.Record
  | none => { level := Log.info, logger, message := "Configuration saved to " ++ c.path }
  | some reason =>
    { level := Log.error, logger
      message := "Failed to save configuration: " ++ (Fault.file reason c.path).message }

/-- Writes the file of a configuration; a path that cannot be written is only logged. -/
def save (c : Config) : Run Host Unit := do
  let h ← Run.get
  if Host.hasNull c.path then Run.fault .nullInPath
  else
    let document := c.document
    match h.files.write h.base c.path (.text document.text) with
    | .ok files => do
      Run.modify (fun h => { h with files })
      match document.mishap with
      | some mishap => Run.fault (.mishap mishap)
      | none => Host.emit (c.saveRecord none)
    | .error reason => Host.emit (c.saveRecord (some reason))

end SchemaNaming.Config

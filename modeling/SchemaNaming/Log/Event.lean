import SchemaNaming.Log.Basic
import SchemaNaming.Slot
import SchemaNaming.Value.Printer

/-!
Events of a generation run that are worth a log record: loaded assemblies, replaced generators,
names that could not be made, and the generators a pipeline begins with.
-/

namespace SchemaNaming.Log

/-- Slots and classes are given by their names. -/
inductive Event where
  | assemblyLoaded (assembly module : String)
  | overrideApplied (slot descriptor cls : String)
  | namingFailed (slot : String) (subject : Value) (reason : String)
  | slotsFilled (slots : List (String × String))
  deriving Inhabited

namespace Event

def level : Event → Nat
  | .assemblyLoaded .. | .overrideApplied .. => info
  | .namingFailed .. => error
  | .slotsFilled _ => debug

def message : Event → String
  | .assemblyLoaded assembly module =>
    "Loaded plugin assembly '" ++ assembly ++ "' as module '" ++ module ++ "'"
  | .overrideApplied slot descriptor cls =>
    slot ++ " name generator overridden by " ++ cls ++ " ('" ++ descriptor ++ "')"
  | .namingFailed slot subject reason =>
    slot ++ " naming failed for " ++ subject.shown ++ ": " ++ reason
  | .slotsFilled slots =>
    "Generator slots: " ++ Value.joined ", " (slots.map (fun s => s.1 ++ "=" ++ s.2))

def record (logger : String) (e : Event) : Record := ⟨e.level, logger, e.message⟩

end Event

end SchemaNaming.Log

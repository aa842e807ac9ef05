import SchemaNaming.Pipeline.Generation

/-!
A report on the active configuration: its file, the configured descriptors and the class in each
slot once the overrides have been applied. The command prints the report, or why there is none.
-/

namespace SchemaNaming.Info

def version : String := "0.1.0"
def author : String := "namegen Team"

structure SlotReport where
  slot : Slot
  descriptor : Value
  /-- The full name of the class of the occupant. -/
  cls : String
  deriving Inhabited

structure Report where
  path : String
  slots : List SlotReport
  deriving Inhabited

def slotReport (p : Pipeline) (slot : Slot) : Run Host SlotReport := do
  let cls ← Plugin.instanceClass (p.occupants.get slot)
  return { slot, descriptor := p.overrides.get slot, cls := cls.fullName }

def slotReports (p : Pipeline) : List Slot → Run Host (List SlotReport)
  | [] => return []
  | slot :: rest => do
    let first ← slotReport p slot
    let reports ← slotReports p rest
    return first :: reports

def report : Run Host Report := do
  let config ← Config.ofNumber (← Config.shared)
  let pipeline ← Pipeline.ofConfig config
  let (_, pipeline) ← pipeline.within Pipeline.applyOverrides
  return { path := config.path, slots := ← slotReports pipeline Slot.all }

inductive Status where
  | success
  | failure
  /-- Whatever a plugin gave as its last word. -/
  | stopped (text : String)
  deriving DecidableEq, Repr

def heading : List String :=
  ["namegen Identifier Naming Pipeline", "========================================"]

def slotLine (r : SlotReport) : String :=
  let descriptor := if r.descriptor.isTrue then r.descriptor.display else "default"
  "  " ++ r.slot.name ++ ": " ++ r.cls ++ " (" ++ descriptor ++ ")"

def body (r : Report) : List String :=
  ["", "namegen Version: " ++ version, "Author: " ++ author, "Config File: " ++ r.path, "",
   "Generator Slots:"] ++ r.slots.map slotLine ++ [""]

def failureLine (f : Failure) : String := "Error resolving generators: " ++ f.message

/-- The exit status and the printed lines. A failure that is neither the library's own nor a stop
ends the command as it is. -/
def command : Run Host (Status × List String) := do
  match ← Run.attempt report with
  | .ok r => return (.success, heading ++ body r)
  | .error failure =>
    match failure.fault with
    | .raised raised =>
      if raised.kind = .stop then return (.stopped raised.text, heading) else Run.fail failure
    | fault =>
      if fault.isOwn then return (.failure, heading ++ [failureLine failure])
      else Run.fail failure

end SchemaNaming.Info

import SchemaNaming.Plugin.Loader

/-!
Runs of a pipeline. Overrides may replace generators until the first name has been asked for; all
of them are resolved before the first one is put into its slot.
-/

namespace SchemaNaming
open Plugin

abbrev PipelineRun := Run (Pipeline × Host)

def onHost (x : Run Host α) : PipelineRun α := fun s =>
  match x s.2 with
  | (result, host) => (result, (s.1, host))

namespace Pipeline

/-- A pipeline as a configuration asks, after its log has been set up. -/
def ofConfig (c : Config) : Run Host Pipeline := do
  c.applyLogging
  let occupants ← fill c.naming.separator c.naming.digitPrefix.display (fun _ => none)
  create occupants c.overrides

def within (p : Pipeline) (x : PipelineRun α) : Run Host (α × Pipeline) := fun h =>
  match x (p, h) with
  | (.ok a, (p, h)) => (.ok (a, p), h)
  | (.error e, (_, h)) => (.error e, h)

/-- An override that has been resolved. -/
structure Resolved where
  slot : Slot
  descriptor : String
  id : InstanceId
  deriving DecidableEq, Repr

def resolveAll (overrides : Overrides) : List Slot → Run Host (List Resolved)
  | [] => return []
  | slot :: rest => do
    let descriptor := overrides.get slot
    if descriptor.isTrue then
      let id ← resolve descriptor slot
      let resolved ← resolveAll overrides rest
      return ⟨slot, descriptor.display, id⟩ :: resolved
    else resolveAll overrides rest

def install : List Resolved → PipelineRun Unit
  | [] => return ()
  | r :: rest => do
    Run.modify (fun s => ({ s.1 with occupants := s.1.occupants.set r.slot r.id }, s.2))
    let cls ← onHost (instanceClass r.id)
    onHost (Host.emit
      ((Log.Event.overrideApplied r.slot.name r.descriptor cls.name).record logger))
    install rest

def applyOverrides : PipelineRun Unit := do
  let (pipeline, _) ← Run.get
  if pipeline.started then
    Run.fault (.pipelineState "Generator overrides must be applied before generation starts" none)
  else
    let resolved ← onHost (resolveAll pipeline.overrides Overrides.order)
    install resolved

def generate (request : Request) : PipelineRun Value := do
  Run.modify (fun s => ({ s.1 with started := true }, s.2))
  let (pipeline, _) ← Run.get
  onHost (ask (pipeline.occupants.get request.slot) request)

/-- The requests for the members of an enumeration, each with its declared name if there is one. -/
def memberRequests (schema : Schema) : List Request :=
  schema.enumeration.zipIdx.map (fun (value, i) =>
    .enum i ((schema.enumerationNames[i]?).join) value schema)

def generateAll : List Request → PipelineRun (List Value)
  | [] => return []
  | request :: rest => do
    let name ← generate request
    let names ← generateAll rest
    return name :: names

def generateEnumNames (schema : Schema) : PipelineRun (List Value) :=
  generateAll (memberRequests schema)

end Pipeline

end SchemaNaming
